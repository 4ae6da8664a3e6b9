/-!
# Code pages

A code page is an encoding with one byte a character; in most of them the first 128 bytes are ASCII.
Each has a name of its own and others that it goes by, all in lower case with `_` between their
parts.
-/

namespace Routebook.Text

set_option autoImplicit false

/-- A code page: its names, and the characters of the bytes from the first one that differs from its
own number on, U+FFFD where none is assigned. -/
structure CodePage where
  name : String
  aliases : List String
  first : Nat
  characters : List Char
  deriving DecidableEq, Repr

/-- The character that a byte stands for. -/
def CodePage.character? (page : CodePage) (byte : UInt8) : Option Char :=
  if byte.toNat < page.first then some (Char.ofNat byte.toNat)
  else
    match page.characters[byte.toNat - page.first]? with
    | some '\uFFFD' | none => none
    | found => found

/-- Pages with a number. -/
def numberedPages : List CodePage :=
  [⟨"cp1006", [], 0xA0,
     ("\u00a0۰۱۲۳۴۵۶۷۸۹،\u061b\u00ad\u061f\ufe81\ufe8d\ufe8e\ufe8e\ufe8f\ufe91\ufb56\ufb58" ++
      "\ufe93\ufe95\ufe97\ufb66\ufb68\ufe99\ufe9b\ufe9d\ufe9f\ufb7a\ufb7c\ufea1\ufea3\ufea5" ++
      "\ufea7\ufea9\ufb84\ufeab\ufead\ufb8c\ufeaf\ufb8a\ufeb1\ufeb3\ufeb5\ufeb7\ufeb9\ufebb" ++
      "\ufebd\ufebf\ufec1\ufec5\ufec9\ufeca\ufecb\ufecc\ufecd\ufece\ufecf\ufed0\ufed1\ufed3" ++
      "\ufed5\ufed7\ufed9\ufedb\ufb92\ufb94\ufedd\ufedf\ufee0\ufee1\ufee3\ufb9e\ufee5\ufee7" ++
      "\ufe85\ufeed\ufba6\ufba8\ufba9\ufbaa\ufe80\ufe89\ufe8a\ufe8b\ufef1\ufef2\ufef3\ufbb0" ++
      "\ufbae\ufe7c\ufe7d").toList⟩,
   ⟨"cp1125", ["1125", "cp866u", "ibm1125", "ruscii"], 0x80,
     ("АБВГДЕЖЗИЙКЛМНОПРСТУФХЦЧШЩЪЫЬЭЮЯабвгдежзийклмноп░▒▓│┤╡╢╖╕╣║╗╝╜╛┐└┴┬├─┼╞╟╚╔╩╦╠═╬╧╨╤╥╙" ++
      "╘╒╓╫╪┘┌█▄▌▐▀рстуфхцчшщъыьэюяЁёҐґЄєІіЇї·√№¤■\u00a0").toList⟩,
   ⟨"cp437", ["437", "cspc8codepage437", "ibm437"], 0x80,
     ("ÇüéâäàåçêëèïîìÄÅÉæÆôöòûùÿÖÜ¢£¥₧ƒáíóúñÑªº¿⌐¬½¼¡«»░▒▓│┤╡╢╖╕╣║╗╝╜╛┐└┴┬├─┼╞╟╚╔╩╦╠═╬╧╨╤╥╙" ++
      "╘╒╓╫╪┘┌█▄▌▐▀αßΓπΣσµτΦΘΩδ∞φε∩≡±≥≤⌠⌡÷≈°∙·√\u207f²■\u00a0").toList⟩,
   ⟨"cp720", [], 0x80,
     ("\u0080\u0081éâ\u0084à\u0086çêëèïî\u008d\u008e\u008f\u0090\u0651\u0652ô¤\u0640ûù" ++
      "\u0621\u0622\u0623\u0624£\u0625\u0626\u0627\u0628\u0629\u062a\u062b\u062c\u062d" ++
      "\u062e\u062f\u0630\u0631\u0632\u0633\u0634\u0635«»░▒▓│┤╡╢╖╕╣║╗╝╜╛┐└┴┬├─┼╞╟╚╔╩╦╠═╬╧╨╤" ++
      "╥╙╘╒╓╫╪┘┌█▄▌▐▀\u0636\u0637\u0638\u0639\u063a\u0641µ\u0642\u0643\u0644\u0645\u0646" ++
      "\u0647\u0648\u0649\u064a≡\u064b\u064c\u064d\u064e\u064f\u0650≈°∙·√\u207f²■\u00a0").toList⟩,
   ⟨"cp737", [], 0x80,
     ("ΑΒΓΔΕΖΗΘΙΚΛΜΝΞΟΠΡΣΤΥΦΧΨΩαβγδεζηθικλμνξοπρσςτυφχψ░▒▓│┤╡╢╖╕╣║╗╝╜╛┐└┴┬├─┼╞╟╚╔╩╦╠═╬╧╨╤╥╙" ++
      "╘╒╓╫╪┘┌█▄▌▐▀ωάέήϊίόύϋώΆΈΉΊΌΎΏ±≥≤ΪΫ÷≈°∙·√\u207f²■\u00a0").toList⟩,
   ⟨"cp775", ["775", "cspc775baltic", "ibm775"], 0x80,
     ("ĆüéāäģåćłēŖŗīŹÄÅÉæÆōöĢ¢ŚśÖÜø£Ø×¤ĀĪóŻżź”¦©®¬½¼Ł«»░▒▓│┤ĄČĘĖ╣║╗╝ĮŠ┐└┴┬├─┼ŲŪ╚╔╩╦╠═╬Žąčęė" ++
      "įšųūž┘┌█▄▌▐▀ÓßŌŃõÕµńĶķĻļņĒŅ’\u00ad±“¾¶§÷„°∙·¹³²■\u00a0").toList⟩,
   ⟨"cp850", ["850", "cspc850multilingual", "ibm850"], 0x80,
     ("ÇüéâäàåçêëèïîìÄÅÉæÆôöòûùÿÖÜø£Ø×ƒáíóúñÑªº¿®¬½¼¡«»░▒▓│┤ÁÂÀ©╣║╗╝¢¥┐└┴┬├─┼ãÃ╚╔╩╦╠═╬¤ðÐÊË" ++
      "ÈıÍÎÏ┘┌█▄¦Ì▀ÓßÔÒõÕµþÞÚÛÙýÝ¯´\u00ad±‗¾¶§÷¸°¨·¹³²■\u00a0").toList⟩,
   ⟨"cp852", ["852", "cspcp852", "ibm852"], 0x80,
     ("ÇüéâäůćçłëŐőîŹÄĆÉĹĺôöĽľŚśÖÜŤťŁ×čáíóúĄąŽžĘę¬źČş«»░▒▓│┤ÁÂĚŞ╣║╗╝Żż┐└┴┬├─┼Ăă╚╔╩╦╠═╬¤đĐĎË" ++
      "ďŇÍÎě┘┌█▄ŢŮ▀ÓßÔŃńňŠšŔÚŕŰýÝţ´\u00ad˝˛\u02c7˘§÷¸°¨˙űŘř■\u00a0").toList⟩,
   ⟨"cp855", ["855", "csibm855", "ibm855"], 0x80,
     ("ђЂѓЃёЁєЄѕЅіІїЇјЈљЉњЊћЋќЌўЎџЏюЮъЪаАбБцЦдДеЕфФгГ«»░▒▓│┤хХиИ╣║╗╝йЙ┐└┴┬├─┼кК╚╔╩╦╠═╬¤лЛмМ" ++
      "нНоОп┘┌█▄Пя▀ЯрРсСтТуУжЖвВьЬ№\u00adыЫзЗшШэЭщЩчЧ§■\u00a0").toList⟩,
   ⟨"cp856", [], 0x80,
     ("\u05d0\u05d1\u05d2\u05d3\u05d4\u05d5\u05d6\u05d7\u05d8\u05d9\u05da\u05db\u05dc\u05dd" ++
      "\u05de\u05df\u05e0\u05e1\u05e2\u05e3\u05e4\u05e5\u05e6\u05e7\u05e8\u05e9\u05ea\ufffd" ++
      "£\ufffd×\ufffd\ufffd\ufffd\ufffd\ufffd\ufffd\ufffd\ufffd\ufffd\ufffd®¬½¼\ufffd«»░▒▓│" ++
      "┤\ufffd\ufffd\ufffd©╣║╗╝¢¥┐└┴┬├─┼\ufffd\ufffd╚╔╩╦╠═╬¤\ufffd\ufffd\ufffd\ufffd\ufffd" ++
      "\ufffd\ufffd\ufffd\ufffd┘┌█▄¦\ufffd▀\ufffd\ufffd\ufffd\ufffd\ufffd\ufffdµ\ufffd" ++
      "\ufffd\ufffd\ufffd\ufffd\ufffd\ufffd¯´\u00ad±‗¾¶§÷¸°¨·¹³²■\u00a0").toList⟩,
   ⟨"cp857", ["857", "csibm857", "ibm857"], 0x80,
     ("ÇüéâäàåçêëèïîıÄÅÉæÆôöòûùİÖÜø£ØŞşáíóúñÑĞğ¿®¬½¼¡«»░▒▓│┤ÁÂÀ©╣║╗╝¢¥┐└┴┬├─┼ãÃ╚╔╩╦╠═╬¤ºªÊË" ++
      "È\ufffdÍÎÏ┘┌█▄¦Ì▀ÓßÔÒõÕµ\ufffd×ÚÛÙìÿ¯´\u00ad±\ufffd¾¶§÷¸°¨·¹³²■\u00a0").toList⟩,
   ⟨"cp858", ["858", "csibm858", "ibm858"], 0x80,
     ("ÇüéâäàåçêëèïîìÄÅÉæÆôöòûùÿÖÜø£Ø×ƒáíóúñÑªº¿®¬½¼¡«»░▒▓│┤ÁÂÀ©╣║╗╝¢¥┐└┴┬├─┼ãÃ╚╔╩╦╠═╬¤ðÐÊË" ++
      "È€ÍÎÏ┘┌█▄¦Ì▀ÓßÔÒõÕµþÞÚÛÙýÝ¯´\u00ad±‗¾¶§÷¸°¨·¹³²■\u00a0").toList⟩,
   ⟨"cp860", ["860", "csibm860", "ibm860"], 0x80,
     ("ÇüéâãàÁçêÊèÍÔìÃÂÉÀÈôõòÚùÌÕÜ¢£Ù₧ÓáíóúñÑªº¿Ò¬½¼¡«»░▒▓│┤╡╢╖╕╣║╗╝╜╛┐└┴┬├─┼╞╟╚╔╩╦╠═╬╧╨╤╥╙" ++
      "╘╒╓╫╪┘┌█▄▌▐▀αßΓπΣσµτΦΘΩδ∞φε∩≡±≥≤⌠⌡÷≈°∙·√\u207f²■\u00a0").toList⟩,
   ⟨"cp861", ["861", "cp_is", "csibm861", "ibm861"], 0x80,
     ("ÇüéâäàåçêëèÐðÞÄÅÉæÆôöþûÝýÖÜø£Ø₧ƒáíóúÁÍÓÚ¿⌐¬½¼¡«»░▒▓│┤╡╢╖╕╣║╗╝╜╛┐└┴┬├─┼╞╟╚╔╩╦╠═╬╧╨╤╥╙" ++
      "╘╒╓╫╪┘┌█▄▌▐▀αßΓπΣσµτΦΘΩδ∞φε∩≡±≥≤⌠⌡÷≈°∙·√\u207f²■\u00a0").toList⟩,
   ⟨"cp862", ["862", "cspc862latinhebrew", "ibm862"], 0x80,
     ("\u05d0\u05d1\u05d2\u05d3\u05d4\u05d5\u05d6\u05d7\u05d8\u05d9\u05da\u05db\u05dc\u05dd" ++
      "\u05de\u05df\u05e0\u05e1\u05e2\u05e3\u05e4\u05e5\u05e6\u05e7\u05e8\u05e9\u05ea¢£¥₧ƒá" ++
      "íóúñÑªº¿⌐¬½¼¡«»░▒▓│┤╡╢╖╕╣║╗╝╜╛┐└┴┬├─┼╞╟╚╔╩╦╠═╬╧╨╤╥╙╘╒╓╫╪┘┌█▄▌▐▀αßΓπΣσµτΦΘΩδ∞φε∩≡±≥≤⌠" ++
      "⌡÷≈°∙·√\u207f²■\u00a0").toList⟩,
   ⟨"cp863", ["863", "csibm863", "ibm863"], 0x80,
     ("ÇüéâÂà¶çêëèïî‗À§ÉÈÊôËÏûù¤ÔÜ¢£ÙÛƒ¦´óú¨¸³¯Î⌐¬½¼¾«»░▒▓│┤╡╢╖╕╣║╗╝╜╛┐└┴┬├─┼╞╟╚╔╩╦╠═╬╧╨╤╥╙" ++
      "╘╒╓╫╪┘┌█▄▌▐▀αßΓπΣσµτΦΘΩδ∞φε∩≡±≥≤⌠⌡÷≈°∙·√\u207f²■\u00a0").toList⟩,
   ⟨"cp865", ["865", "csibm865", "ibm865"], 0x80,
     ("ÇüéâäàåçêëèïîìÄÅÉæÆôöòûùÿÖÜø£Ø₧ƒáíóúñÑªº¿⌐¬½¼¡«¤░▒▓│┤╡╢╖╕╣║╗╝╜╛┐└┴┬├─┼╞╟╚╔╩╦╠═╬╧╨╤╥╙" ++
      "╘╒╓╫╪┘┌█▄▌▐▀αßΓπΣσµτΦΘΩδ∞φε∩≡±≥≤⌠⌡÷≈°∙·√\u207f²■\u00a0").toList⟩,
   ⟨"cp866", ["866", "csibm866", "ibm866"], 0x80,
     ("АБВГДЕЖЗИЙКЛМНОПРСТУФХЦЧШЩЪЫЬЭЮЯабвгдежзийклмноп░▒▓│┤╡╢╖╕╣║╗╝╜╛┐└┴┬├─┼╞╟╚╔╩╦╠═╬╧╨╤╥╙" ++
      "╘╒╓╫╪┘┌█▄▌▐▀рстуфхцчшщъыьэюяЁёЄєЇїЎў°∙·√№¤■\u00a0").toList⟩,
   ⟨"cp869", ["869", "cp_gr", "csibm869", "ibm869"], 0x80,
     ("\ufffd\ufffd\ufffd\ufffd\ufffd\ufffdΆ\ufffd·¬¦‘’Έ―ΉΊΪΌ\ufffd\ufffdΎΫ©Ώ²³ά£έήίϊΐόύΑΒΓ" ++
      "ΔΕΖΗ½ΘΙ«»░▒▓│┤ΚΛΜΝ╣║╗╝ΞΟ┐└┴┬├─┼ΠΡ╚╔╩╦╠═╬ΣΤΥΦΧΨΩαβγ┘┌█▄δε▀ζηθικλμνξοπρσςτ΄\u00ad±υφχ§" ++
      "ψ΅°¨ωϋΰώ■\u00a0").toList⟩,
   ⟨"cp874", [], 0x80,
     ("€\ufffd\ufffd\ufffd\ufffd…\ufffd\ufffd\ufffd\ufffd\ufffd\ufffd\ufffd\ufffd\ufffd" ++
      "\ufffd\ufffd‘’“”•–—\ufffd\ufffd\ufffd\ufffd\ufffd\ufffd\ufffd\ufffd\u00a0กขฃคฅฆงจฉชซ" ++
      "ฌญฎฏฐฑฒณดตถทธนบปผฝพฟภมยรฤลฦวศษสหฬอฮฯะ\u0e31าำ\u0e34\u0e35\u0e36\u0e37\u0e38\u0e39" ++
      "\u0e3a\ufffd\ufffd\ufffd\ufffd฿เแโใไๅ\u0e46\u0e47\u0e48\u0e49\u0e4a\u0e4b\u0e4c" ++
      "\u0e4d\u0e4e๏๐๑๒๓๔๕๖๗๘๙๚๛\ufffd\ufffd\ufffd\ufffd").toList⟩]

/-- Pages of window systems. -/
def windowPages : List CodePage :=
  [⟨"cp1250", ["1250", "windows_1250"], 0x80,
     ("€\ufffd‚\ufffd„…†‡\ufffd‰Š‹ŚŤŽŹ\ufffd‘’“”•–—\ufffd™š›śťžź\u00a0\u02c7˘Ł¤Ą¦§¨©Ş«¬" ++
      "\u00ad®Ż°±˛ł´µ¶·¸ąş»Ľ˝ľżŔÁÂĂÄĹĆÇČÉĘËĚÍÎĎĐŃŇÓÔŐÖ×ŘŮÚŰÜÝŢßŕáâăäĺćçčéęëěíîďđńňóôőö÷řůúű" ++
      "üýţ˙").toList⟩,
   ⟨"cp1251", ["1251", "windows_1251"], 0x80,
     ("ЂЃ‚ѓ„…†‡€‰Љ‹ЊЌЋЏђ‘’“”•–—\ufffd™љ›њќћџ\u00a0ЎўЈ¤Ґ¦§Ё©Є«¬\u00ad®Ї°±Ііґµ¶·ё№є»јЅѕїАБВГД" ++
      "ЕЖЗИЙКЛМНОПРСТУФХЦЧШЩЪЫЬЭЮЯабвгдежзийклмнопрстуфхцчшщъыьэюя").toList⟩,
   ⟨"cp1252", ["1252", "windows_1252"], 0x80,
     ("€\ufffd‚ƒ„…†‡\u02c6‰Š‹Œ\ufffdŽ\ufffd\ufffd‘’“”•–—˜™š›œ\ufffdžŸ\u00a0¡¢£¤¥¦§¨©ª«¬" ++
      "\u00ad®¯°±²³´µ¶·¸¹º»¼½¾¿ÀÁÂÃÄÅÆÇÈÉÊËÌÍÎÏÐÑÒÓÔÕÖ×ØÙÚÛÜÝÞßàáâãäåæçèéêëìíîïðñòóôõö÷øùúû" ++
      "üýþÿ").toList⟩,
   ⟨"cp1253", ["1253", "windows_1253"], 0x80,
     ("€\ufffd‚ƒ„…†‡\ufffd‰\ufffd‹\ufffd\ufffd\ufffd\ufffd\ufffd‘’“”•–—\ufffd™\ufffd›\ufffd" ++
      "\ufffd\ufffd\ufffd\u00a0΅Ά£¤¥¦§¨©\ufffd«¬\u00ad®―°±²³΄µ¶·ΈΉΊ»Ό½ΎΏΐΑΒΓΔΕΖΗΘΙΚΛΜΝΞΟΠΡ" ++
      "\ufffdΣΤΥΦΧΨΩΪΫάέήίΰαβγδεζηθικλμνξοπρςστυφχψωϊϋόύώ\ufffd").toList⟩,
   ⟨"cp1254", ["1254", "windows_1254"], 0x80,
     ("€\ufffd‚ƒ„…†‡\u02c6‰Š‹Œ\ufffd\ufffd\ufffd\ufffd‘’“”•–—˜™š›œ\ufffd\ufffdŸ\u00a0¡¢£¤¥¦" ++
      "§¨©ª«¬\u00ad®¯°±²³´µ¶·¸¹º»¼½¾¿ÀÁÂÃÄÅÆÇÈÉÊËÌÍÎÏĞÑÒÓÔÕÖ×ØÙÚÛÜİŞßàáâãäåæçèéêëìíîïğñòóôõ" ++
      "ö÷øùúûüışÿ").toList⟩,
   ⟨"cp1255", ["1255", "windows_1255"], 0x80,
     ("€\ufffd‚ƒ„…†‡\u02c6‰\ufffd‹\ufffd\ufffd\ufffd\ufffd\ufffd‘’“”•–—˜™\ufffd›\ufffd" ++
      "\ufffd\ufffd\ufffd\u00a0¡¢£₪¥¦§¨©×«¬\u00ad®¯°±²³´µ¶·¸¹÷»¼½¾¿\u05b0\u05b1\u05b2\u05b3" ++
      "\u05b4\u05b5\u05b6\u05b7\u05b8\u05b9\ufffd\u05bb\u05bc\u05bd\u05be\u05bf\u05c0\u05c1" ++
      "\u05c2\u05c3\u05f0\u05f1\u05f2\u05f3\u05f4\ufffd\ufffd\ufffd\ufffd\ufffd\ufffd\ufffd" ++
      "\u05d0\u05d1\u05d2\u05d3\u05d4\u05d5\u05d6\u05d7\u05d8\u05d9\u05da\u05db\u05dc\u05dd" ++
      "\u05de\u05df\u05e0\u05e1\u05e2\u05e3\u05e4\u05e5\u05e6\u05e7\u05e8\u05e9\u05ea\ufffd" ++
      "\ufffd\u200e\u200f\ufffd").toList⟩,
   ⟨"cp1256", ["1256", "windows_1256"], 0x80,
     ("€\u067e‚ƒ„…†‡\u02c6‰\u0679‹Œ\u0686\u0698\u0688\u06af‘’“”•–—\u06a9™\u0691›œ\u200c" ++
      "\u200d\u06ba\u00a0،¢£¤¥¦§¨©\u06be«¬\u00ad®¯°±²³´µ¶·¸¹\u061b»¼½¾\u061f\u06c1\u0621" ++
      "\u0622\u0623\u0624\u0625\u0626\u0627\u0628\u0629\u062a\u062b\u062c\u062d\u062e\u062f" ++
      "\u0630\u0631\u0632\u0633\u0634\u0635\u0636×\u0637\u0638\u0639\u063a\u0640\u0641" ++
      "\u0642\u0643à\u0644â\u0645\u0646\u0647\u0648çèéêë\u0649\u064aîï\u064b\u064c\u064d" ++
      "\u064eô\u064f\u0650÷\u0651ù\u0652ûü\u200e\u200f\u06d2").toList⟩,
   ⟨"cp1257", ["1257", "windows_1257"], 0x80,
     ("€\ufffd‚\ufffd„…†‡\ufffd‰\ufffd‹\ufffd¨\u02c7¸\ufffd‘’“”•–—\ufffd™\ufffd›\ufffd¯˛" ++
      "\ufffd\u00a0\ufffd¢£¤\ufffd¦§Ø©Ŗ«¬\u00ad®Æ°±²³´µ¶·ø¹ŗ»¼½¾æĄĮĀĆÄÅĘĒČÉŹĖĢĶĪĻŠŃŅÓŌÕÖ×ŲŁ" ++
      "ŚŪÜŻŽßąįāćäåęēčéźėģķīļšńņóōõö÷ųłśūüżž˙").toList⟩,
   ⟨"cp1258", ["1258", "windows_1258"], 0x80,
     ("€\ufffd‚ƒ„…†‡\u02c6‰\ufffd‹Œ\ufffd\ufffd\ufffd\ufffd‘’“”•–—˜™\ufffd›œ\ufffd\ufffdŸ" ++
      "\u00a0¡¢£¤¥¦§¨©ª«¬\u00ad®¯°±²³´µ¶·¸¹º»¼½¾¿ÀÁÂĂÄÅÆÇÈÉÊË\u0300ÍÎÏĐÑ\u0309ÓÔƠÖ×ØÙÚÛÜƯ" ++
      "\u0303ßàáâăäåæçèéêë\u0301íîïđñ\u0323óôơö÷øùúûüư₫ÿ").toList⟩]

/-- Pages of one standard, by part. -/
def standardPages : List CodePage :=
  [⟨"iso8859_10", ["csisolatin6", "iso_8859_10", "iso_8859_10_1992", "iso_ir_157", "l6",
     "latin6"], 0xA0,
     ("\u00a0ĄĒĢĪĨĶ§ĻĐŠŦŽ\u00adŪŊ°ąēģīĩķ·ļđšŧž―ūŋĀÁÂÃÄÅÆĮČÉĘËĖÍÎÏÐŅŌÓÔÕÖŨØŲÚÛÜÝÞßāáâãäåæįčé" ++
      "ęëėíîïðņōóôõöũøųúûüýþĸ").toList⟩,
   ⟨"iso8859_11", ["iso_8859_11", "iso_8859_11_2001", "thai"], 0xA0,
     ("\u00a0กขฃคฅฆงจฉชซฌญฎฏฐฑฒณดตถทธนบปผฝพฟภมยรฤลฦวศษสหฬอฮฯะ\u0e31าำ\u0e34\u0e35\u0e36" ++
      "\u0e37\u0e38\u0e39\u0e3a\ufffd\ufffd\ufffd\ufffd฿เแโใไๅ\u0e46\u0e47\u0e48\u0e49" ++
      "\u0e4a\u0e4b\u0e4c\u0e4d\u0e4e๏๐๑๒๓๔๕๖๗๘๙๚๛\ufffd\ufffd\ufffd\ufffd").toList⟩,
   ⟨"iso8859_13", ["iso_8859_13", "l7", "latin7"], 0xA0,
     ("\u00a0”¢£¤„¦§Ø©Ŗ«¬\u00ad®Æ°±²³“µ¶·ø¹ŗ»¼½¾æĄĮĀĆÄÅĘĒČÉŹĖĢĶĪĻŠŃŅÓŌÕÖ×ŲŁŚŪÜŻŽßąįāćäåęēčé" ++
      "źėģķīļšńņóōõö÷ųłśūüżž’").toList⟩,
   ⟨"iso8859_14", ["iso_8859_14", "iso_8859_14_1998", "iso_celtic", "iso_ir_199", "l8",
     "latin8"], 0xA0,
     ("\u00a0Ḃḃ£ĊċḊ§Ẁ©ẂḋỲ\u00ad®ŸḞḟĠġṀṁ¶ṖẁṗẃṠỳẄẅṡÀÁÂÃÄÅÆÇÈÉÊËÌÍÎÏŴÑÒÓÔÕÖṪØÙÚÛÜÝŶßàáâãäåæçèé" ++
      "êëìíîïŵñòóôõöṫøùúûüýŷÿ").toList⟩,
   ⟨"iso8859_15", ["iso_8859_15", "l9", "latin9"], 0xA0,
     ("\u00a0¡¢£€¥Š§š©ª«¬\u00ad®¯°±²³Žµ¶·ž¹º»ŒœŸ¿ÀÁÂÃÄÅÆÇÈÉÊËÌÍÎÏÐÑÒÓÔÕÖ×ØÙÚÛÜÝÞßàáâãäåæçèé" ++
      "êëìíîïðñòóôõö÷øùúûüýþÿ").toList⟩,
   ⟨"iso8859_16", ["iso_8859_16", "iso_8859_16_2001", "iso_ir_226", "l10", "latin10"], 0xA0,
     ("\u00a0ĄąŁ€„Š§š©Ș«Ź\u00adźŻ°±ČłŽ”¶·žčș»ŒœŸżÀÁÂĂÄĆÆÇÈÉÊËÌÍÎÏĐŃÒÓÔŐÖŚŰÙÚÛÜĘȚßàáâăäćæçèé" ++
      "êëìíîïđńòóôőöśűùúûüęțÿ").toList⟩,
   ⟨"iso8859_2", ["csisolatin2", "iso_8859_2", "iso_8859_2_1987", "iso_ir_101", "l2",
     "latin2"], 0xA0,
     ("\u00a0Ą˘Ł¤ĽŚ§¨ŠŞŤŹ\u00adŽŻ°ą˛ł´ľś\u02c7¸šşťź˝žżŔÁÂĂÄĹĆÇČÉĘËĚÍÎĎĐŃŇÓÔŐÖ×ŘŮÚŰÜÝŢßŕáâăä" ++
      "ĺćçčéęëěíîďđńňóôőö÷řůúűüýţ˙").toList⟩,
   ⟨"iso8859_3", ["csisolatin3", "iso_8859_3", "iso_8859_3_1988", "iso_ir_109", "l3",
     "latin3"], 0xA0,
     ("\u00a0Ħ˘£¤\ufffdĤ§¨İŞĞĴ\u00ad\ufffdŻ°ħ²³´µĥ·¸ışğĵ½\ufffdżÀÁÂ\ufffdÄĊĈÇÈÉÊËÌÍÎÏ\ufffd" ++
      "ÑÒÓÔĠÖ×ĜÙÚÛÜŬŜßàáâ\ufffdäċĉçèéêëìíîï\ufffdñòóôġö÷ĝùúûüŭŝ˙").toList⟩,
   ⟨"iso8859_4", ["csisolatin4", "iso_8859_4", "iso_8859_4_1988", "iso_ir_110", "l4",
     "latin4"], 0xA0,
     ("\u00a0ĄĸŖ¤ĨĻ§¨ŠĒĢŦ\u00adŽ¯°ą˛ŗ´ĩļ\u02c7¸šēģŧŊžŋĀÁÂÃÄÅÆĮČÉĘËĖÍÎĪĐŅŌĶÔÕÖ×ØŲÚÛÜŨŪßāáâãä" ++
      "åæįčéęëėíîīđņōķôõö÷øųúûüũū˙").toList⟩,
   ⟨"iso8859_5", ["csisolatincyrillic", "cyrillic", "iso_8859_5", "iso_8859_5_1988",
     "iso_ir_144"], 0xA0,
     ("\u00a0ЁЂЃЄЅІЇЈЉЊЋЌ\u00adЎЏАБВГДЕЖЗИЙКЛМНОПРСТУФХЦЧШЩЪЫЬЭЮЯабвгдежзийклмнопрстуфхцчшщ" ++
      "ъыьэюя№ёђѓєѕіїјљњћќ§ўџ").toList⟩,
   ⟨"iso8859_6", ["arabic", "asmo_708", "csisolatinarabic", "ecma_114", "iso_8859_6",
     "iso_8859_6_1987", "iso_ir_127"], 0xA0,
     ("\u00a0\ufffd\ufffd\ufffd¤\ufffd\ufffd\ufffd\ufffd\ufffd\ufffd\ufffd،\u00ad\ufffd" ++
      "\ufffd\ufffd\ufffd\ufffd\ufffd\ufffd\ufffd\ufffd\ufffd\ufffd\ufffd\ufffd\u061b\ufffd" ++
      "\ufffd\ufffd\u061f\ufffd\u0621\u0622\u0623\u0624\u0625\u0626\u0627\u0628\u0629\u062a" ++
      "\u062b\u062c\u062d\u062e\u062f\u0630\u0631\u0632\u0633\u0634\u0635\u0636\u0637\u0638" ++
      "\u0639\u063a\ufffd\ufffd\ufffd\ufffd\ufffd\u0640\u0641\u0642\u0643\u0644\u0645\u0646" ++
      "\u0647\u0648\u0649\u064a\u064b\u064c\u064d\u064e\u064f\u0650\u0651\u0652\ufffd\ufffd" ++
      "\ufffd\ufffd\ufffd\ufffd\ufffd\ufffd\ufffd\ufffd\ufffd\ufffd\ufffd").toList⟩,
   ⟨"iso8859_7", ["csisolatingreek", "ecma_118", "elot_928", "greek", "greek8",
     "iso_8859_7", "iso_8859_7_1987", "iso_ir_126"], 0xA0,
     ("\u00a0‘’£€₯¦§¨©\u037a«¬\u00ad\ufffd―°±²³΄΅Ά·ΈΉΊ»Ό½ΎΏΐΑΒΓΔΕΖΗΘΙΚΛΜΝΞΟΠΡ\ufffdΣΤΥΦΧΨΩΪ" ++
      "Ϋάέήίΰαβγδεζηθικλμνξοπρςστυφχψωϊϋόύώ\ufffd").toList⟩,
   ⟨"iso8859_8", ["csisolatinhebrew", "hebrew", "iso_8859_8", "iso_8859_8_1988",
     "iso_ir_138"], 0xA0,
     ("\u00a0\ufffd¢£¤¥¦§¨©×«¬\u00ad®¯°±²³´µ¶·¸¹÷»¼½¾\ufffd\ufffd\ufffd\ufffd\ufffd\ufffd" ++
      "\ufffd\ufffd\ufffd\ufffd\ufffd\ufffd\ufffd\ufffd\ufffd\ufffd\ufffd\ufffd\ufffd\ufffd" ++
      "\ufffd\ufffd\ufffd\ufffd\ufffd\ufffd\ufffd\ufffd\ufffd\ufffd\ufffd\ufffd‗\u05d0" ++
      "\u05d1\u05d2\u05d3\u05d4\u05d5\u05d6\u05d7\u05d8\u05d9\u05da\u05db\u05dc\u05dd\u05de" ++
      "\u05df\u05e0\u05e1\u05e2\u05e3\u05e4\u05e5\u05e6\u05e7\u05e8\u05e9\u05ea\ufffd\ufffd" ++
      "\u200e\u200f\ufffd").toList⟩,
   ⟨"iso8859_9", ["csisolatin5", "iso_8859_9", "iso_8859_9_1989", "iso_ir_148", "l5",
     "latin5"], 0xA0,
     ("\u00a0¡¢£¤¥¦§¨©ª«¬\u00ad®¯°±²³´µ¶·¸¹º»¼½¾¿ÀÁÂÃÄÅÆÇÈÉÊËÌÍÎÏĞÑÒÓÔÕÖ×ØÙÚÛÜİŞßàáâãäåæçèé" ++
      "êëìíîïğñòóôõö÷øùúûüışÿ").toList⟩]

/-- Pages by script. -/
def scriptPages : List CodePage :=
  [⟨"mac_arabic", [], 0x80,
     ("Ä\u00a0ÇÉÑÖÜáàâä\u06ba«çéèêëí…îïñó»ôö÷úùûü\u0020!\x22#$٪&'()*+،-./٠١٢٣٤٥٦٧٨٩:\u061b<" ++
      "=>\u061f❊\u0621\u0622\u0623\u0624\u0625\u0626\u0627\u0628\u0629\u062a\u062b\u062c" ++
      "\u062d\u062e\u062f\u0630\u0631\u0632\u0633\u0634\u0635\u0636\u0637\u0638\u0639\u063a" ++
      "[\x5c]^_\u0640\u0641\u0642\u0643\u0644\u0645\u0646\u0647\u0648\u0649\u064a\u064b" ++
      "\u064c\u064d\u064e\u064f\u0650\u0651\u0652\u067e\u0679\u0686\u06d5\u06a4\u06af\u0688" ++
      "\u0691\x7b|\x7d\u0698\u06d2").toList⟩,
   ⟨"mac_croatian", [], 0x80,
     ("ÄÅÇÉÑÖÜáàâäãåçéèêëíìîïñóòôöõúùûü†°¢£§•¶ß®Š™´¨≠ŽØ∞±≤≥∆µ∂∑∏š∫ªºΩžø¿¡¬√ƒ≈Ć«Č…\u00a0ÀÃÕŒ" ++
      "œĐ—“”‘’÷◊\uf8ff©⁄€‹›Æ»–·‚„‰ÂćÁčÈÍÎÏÌÓÔđÒÚÛÙı\u02c6˜¯πË˚¸Êæ\u02c7").toList⟩,
   ⟨"mac_cyrillic", ["maccyrillic"], 0x80,
     ("АБВГДЕЖЗИЙКЛМНОПРСТУФХЦЧШЩЪЫЬЭЮЯ†°Ґ£§•¶І®©™Ђђ≠Ѓѓ∞±≤≥іµґЈЄєЇїЉљЊњјЅ¬√ƒ≈∆«»…\u00a0ЋћЌќ" ++
      "ѕ–—“”‘’÷„ЎўЏџ№Ёёяабвгдежзийклмнопрстуфхцчшщъыьэю€").toList⟩,
   ⟨"mac_farsi", [], 0x80,
     ("Ä\u00a0ÇÉÑÖÜáàâä\u06ba«çéèêëí…îïñó»ôö÷úùûü\u0020!\x22#$٪&'()*+،-./۰۱۲۳۴۵۶۷۸۹:\u061b<" ++
      "=>\u061f❊\u0621\u0622\u0623\u0624\u0625\u0626\u0627\u0628\u0629\u062a\u062b\u062c" ++
      "\u062d\u062e\u062f\u0630\u0631\u0632\u0633\u0634\u0635\u0636\u0637\u0638\u0639\u063a" ++
      "[\x5c]^_\u0640\u0641\u0642\u0643\u0644\u0645\u0646\u0647\u0648\u0649\u064a\u064b" ++
      "\u064c\u064d\u064e\u064f\u0650\u0651\u0652\u067e\u0679\u0686\u06d5\u06a4\u06af\u0688" ++
      "\u0691\x7b|\x7d\u0698\u06d2").toList⟩,
   ⟨"mac_greek", ["macgreek"], 0x80,
     ("Ä¹²É³ÖÜ΅àâä΄¨çéèêë£™îï•½‰ôö¦€ùûü†ΓΔΘΛΞΠß®©ΣΪ§≠°·Α±≤≥¥ΒΕΖΗΙΚΜΦΫΨΩάΝ¬ΟΡ≈Τ«»…\u00a0ΥΧΆΈ" ++
      "œ–―“”‘’÷ΉΊΌΎέήίόΏύαβψδεφγηιξκλμνοπώρστθωςχυζϊϋΐΰ\u00ad").toList⟩,
   ⟨"mac_iceland", ["maciceland"], 0x80,
     ("ÄÅÇÉÑÖÜáàâäãåçéèêëíìîïñóòôöõúùûüÝ°¢£§•¶ß®©™´¨≠ÆØ∞±≤≥¥µ∂∑∏π∫ªºΩæø¿¡¬√ƒ≈∆«»…\u00a0ÀÃÕŒ" ++
      "œ–—“”‘’÷◊ÿŸ⁄€ÐðÞþý·‚„‰ÂÊÁËÈÍÎÏÌÓÔ\uf8ffÒÚÛÙı\u02c6˜¯˘˙˚¸˝˛\u02c7").toList⟩,
   ⟨"mac_latin2", ["mac_centeuro", "maccentraleurope", "maclatin2"], 0x80,
     ("ÄĀāÉĄÖÜáąČäčĆćéŹźĎíďĒēĖóėôöõúĚěü†°Ę£§•¶ß®©™ę¨≠ģĮįĪ≤≥īĶ∂∑łĻļĽľĹĺŅņŃ¬√ńŇ∆«»…\u00a0ňŐÕő" ++
      "Ō–—“”‘’÷◊ōŔŕŘ‹›řŖŗŠ‚„šŚśÁŤťÍŽžŪÓÔūŮÚůŰűŲųÝýķŻŁżĢ\u02c7").toList⟩,
   ⟨"mac_roman", ["macintosh", "macroman"], 0x80,
     ("ÄÅÇÉÑÖÜáàâäãåçéèêëíìîïñóòôöõúùûü†°¢£§•¶ß®©™´¨≠ÆØ∞±≤≥¥µ∂∑∏π∫ªºΩæø¿¡¬√ƒ≈∆«»…\u00a0ÀÃÕŒ" ++
      "œ–—“”‘’÷◊ÿŸ⁄€‹›ﬁﬂ‡·‚„‰ÂÊÁËÈÍÎÏÌÓÔ\uf8ffÒÚÛÙı\u02c6˜¯˘˙˚¸˝˛\u02c7").toList⟩,
   ⟨"mac_romanian", [], 0x80,
     ("ÄÅÇÉÑÖÜáàâäãåçéèêëíìîïñóòôöõúùûü†°¢£§•¶ß®©™´¨≠ĂȘ∞±≤≥¥µ∂∑∏π∫ªºΩăș¿¡¬√ƒ≈∆«»…\u00a0ÀÃÕŒ" ++
      "œ–—“”‘’÷◊ÿŸ⁄€‹›Țț‡·‚„‰ÂÊÁËÈÍÎÏÌÓÔ\uf8ffÒÚÛÙı\u02c6˜¯˘˙˚¸˝˛\u02c7").toList⟩,
   ⟨"mac_turkish", ["macturkish"], 0x80,
     ("ÄÅÇÉÑÖÜáàâäãåçéèêëíìîïñóòôöõúùûü†°¢£§•¶ß®©™´¨≠ÆØ∞±≤≥¥µ∂∑∏π∫ªºΩæø¿¡¬√ƒ≈∆«»…\u00a0ÀÃÕŒ" ++
      "œ–—“”‘’÷◊ÿŸĞğİıŞş‡·‚„‰ÂÊÁËÈÍÎÏÌÓÔ\uf8ffÒÚÛÙ\uf8a0\u02c6˜¯˘˙˚¸˝˛\u02c7").toList⟩]

/-- Other pages. -/
def otherPages : List CodePage :=
  [⟨"hp_roman8", ["cp1051", "csHPRoman8", "ibm1051", "r8", "roman8"], 0xA0,
     ("\u00a0ÀÂÈÊËÎÏ´\u02cb\u02c6¨˜ÙÛ₤¯Ýý°ÇçÑñ¡¿¤£¥§ƒ¢âêôûáéóúàèòùäëöüÅîØÆåíøæÄìÖÜÉïßÔÁÃãÐð" ++
      "ÍÌÓÒÕõŠšÚŸÿÞþ·µ¶¾—¼½ªº«■»±\ufffd").toList⟩,
   ⟨"koi8_r", ["cskoi8r"], 0x80,
     ("─│┌┐└┘├┤┬┴┼▀▄█▌▐░▒▓⌠■∙√≈≤≥\u00a0⌡°²·÷═║╒ё╓╔╕╖╗╘╙╚╛╜╝╞╟╠╡Ё╢╣╤╥╦╧╨╩╪╫╬©юабцдефгхийклмн" ++
      "опярстужвьызшэщчъЮАБЦДЕФГХИЙКЛМНОПЯРСТУЖВЬЫЗШЭЩЧЪ").toList⟩,
   ⟨"koi8_t", [], 0x80,
     ("қғ‚Ғ„…†‡\ufffd‰ҳ‹ҲҷҶ\ufffdҚ‘’“”•–—\ufffd™\ufffd›\ufffd\ufffd\ufffd\ufffd\ufffdӯӮё¤ӣ¦" ++
      "§\ufffd\ufffd\ufffd«¬\u00ad®\ufffd°±²Ё\ufffdӢ¶·\ufffd№\ufffd»\ufffd\ufffd\ufffd©юабц" ++
      "дефгхийклмнопярстужвьызшэщчъЮАБЦДЕФГХИЙКЛМНОПЯРСТУЖВЬЫЗШЭЩЧЪ").toList⟩,
   ⟨"koi8_u", [], 0x80,
     ("─│┌┐└┘├┤┬┴┼▀▄█▌▐░▒▓⌠■∙√≈≤≥\u00a0⌡°²·÷═║╒ёє╔ії╗╘╙╚╛ґ╝╞╟╠╡ЁЄ╣ІЇ╦╧╨╩╪Ґ╬©юабцдефгхийклмн" ++
      "опярстужвьызшэщчъЮАБЦДЕФГХИЙКЛМНОПЯРСТУЖВЬЫЗШЭЩЧЪ").toList⟩,
   ⟨"kz1048", ["kz_1048", "rk1048", "strk1048_2002"], 0x80,
     ("ЂЃ‚ѓ„…†‡€‰Љ‹ЊҚҺЏђ‘’“”•–—\ufffd™љ›њқһџ\u00a0ҰұӘ¤Ө¦§Ё©Ғ«¬\u00ad®Ү°±Ііөµ¶·ё№ғ»әҢңүАБВГД" ++
      "ЕЖЗИЙКЛМНОПРСТУФХЦЧШЩЪЫЬЭЮЯабвгдежзийклмнопрстуфхцчшщъыьэюя").toList⟩,
   ⟨"palmos", [], 0x80,
     ("€\u0081‚ƒ„…†‡\u02c6‰Š‹Œ♦♣♥♠‘’“”•–—˜™š\u009bœ\u009d\u009eŸ\u00a0¡¢£¤¥¦§¨©ª«¬\u00ad®¯°" ++
      "±²³´µ¶·¸¹º»¼½¾¿ÀÁÂÃÄÅÆÇÈÉÊËÌÍÎÏÐÑÒÓÔÕÖ×ØÙÚÛÜÝÞßàáâãäåæçèéêëìíîïðñòóôõö÷øùúûüýþÿ").toList⟩,
   ⟨"ptcp154", ["cp154", "csptcp154", "cyrillic_asian", "pt154"], 0x80,
     ("ҖҒӮғ„…ҶҮҲүҠӢҢҚҺҸҗ‘’“”•–—ҳҷҡӣңқһҹ\u00a0ЎўЈӨҘҰ§Ё©Ә«¬ӯ®Ҝ°ұІіҙө¶·ё№ә»јҪҫҝАБВГДЕЖЗИЙКЛМНО" ++
      "ПРСТУФХЦЧШЩЪЫЬЭЮЯабвгдежзийклмнопрстуфхцчшщъыьэюя").toList⟩,
   ⟨"tis_620", ["iso_ir_166", "tis620", "tis_620_0", "tis_620_2529_0", "tis_620_2529_1"], 0xA0,
     ("\ufffdกขฃคฅฆงจฉชซฌญฎฏฐฑฒณดตถทธนบปผฝพฟภมยรฤลฦวศษสหฬอฮฯะ\u0e31าำ\u0e34\u0e35\u0e36" ++
      "\u0e37\u0e38\u0e39\u0e3a\ufffd\ufffd\ufffd\ufffd฿เแโใไๅ\u0e46\u0e47\u0e48\u0e49" ++
      "\u0e4a\u0e4b\u0e4c\u0e4d\u0e4e๏๐๑๒๓๔๕๖๗๘๙๚๛\ufffd\ufffd\ufffd\ufffd").toList⟩]

/-- Pages in which bytes below 128 differ from ASCII. -/
def foreignPages : List CodePage :=
  [⟨"cp037", ["037", "csibm037", "ebcdic_cp_ca", "ebcdic_cp_nl", "ebcdic_cp_us",
     "ebcdic_cp_wt", "ibm037", "ibm039"], 0x4,
     ("\u009c\u0009\u0086\u007f\u0097\u008d\u008e\u000b\u000c\u000d\u000e\u000f\u0010\u0011" ++
      "\u0012\u0013\u009d\u0085\u0008\u0087\u0018\u0019\u0092\u008f\u001c\u001d\u001e\u001f" ++
      "\u0080\u0081\u0082\u0083\u0084\u000a\u0017\u001b\u0088\u0089\u008a\u008b\u008c\u0005" ++
      "\u0006\u0007\u0090\u0091\u0016\u0093\u0094\u0095\u0096\u0004\u0098\u0099\u009a\u009b" ++
      "\u0014\u0015\u009e\u001a\u0020\u00a0âäàáãåçñ¢.<(+|&éêëèíîïìß!$*);¬-/ÂÄÀÁÃÅÇÑ¦,%_>?øÉ" ++
      "ÊËÈÍÎÏÌ\x60:#@'=\x22Øabcdefghi«»ðýþ±°jklmnopqrªºæ¸Æ¤µ~stuvwxyz¡¿ÐÝÞ®^£¥·©§¶¼½¾[]¯¨´×" ++
      "\x7bABCDEFGHI\u00adôöòóõ\x7dJKLMNOPQR¹ûüùúÿ\x5c÷STUVWXYZ²ÔÖÒÓÕ01" ++
      "23456789³ÛÜÙÚ\u009f").toList⟩,
   ⟨"cp1026", ["1026", "csibm1026", "ibm1026"], 0x4,
     ("\u009c\u0009\u0086\u007f\u0097\u008d\u008e\u000b\u000c\u000d\u000e\u000f\u0010\u0011" ++
      "\u0012\u0013\u009d\u0085\u0008\u0087\u0018\u0019\u0092\u008f\u001c\u001d\u001e\u001f" ++
      "\u0080\u0081\u0082\u0083\u0084\u000a\u0017\u001b\u0088\u0089\u008a\u008b\u008c\u0005" ++
      "\u0006\u0007\u0090\u0091\u0016\u0093\u0094\u0095\u0096\u0004\u0098\u0099\u009a\u009b" ++
      "\u0014\u0015\u009e\u001a\u0020\u00a0âäàáãå\x7bñÇ.<(+!&éêëèíîïìßĞİ*);^-/ÂÄÀÁÃÅ[Ñş,%_>" ++
      "?øÉÊËÈÍÎÏÌı:ÖŞ'=ÜØabcdefghi«»\x7d\x60¦±°jklmnopqrªºæ¸Æ¤µöstuvwxyz¡¿]$@®¢£¥·©§¶¼½¾¬|¯" ++
      "¨´×çABCDEFGHI\u00adô~òóõğJKLMNOPQR¹û\x5cùúÿü÷STUVWXYZ²Ô#ÒÓÕ01" ++
      "23456789³Û\x22ÙÚ\u009f").toList⟩,
   ⟨"cp1140", ["1140", "ibm1140"], 0x4,
     ("\u009c\u0009\u0086\u007f\u0097\u008d\u008e\u000b\u000c\u000d\u000e\u000f\u0010\u0011" ++
      "\u0012\u0013\u009d\u0085\u0008\u0087\u0018\u0019\u0092\u008f\u001c\u001d\u001e\u001f" ++
      "\u0080\u0081\u0082\u0083\u0084\u000a\u0017\u001b\u0088\u0089\u008a\u008b\u008c\u0005" ++
      "\u0006\u0007\u0090\u0091\u0016\u0093\u0094\u0095\u0096\u0004\u0098\u0099\u009a\u009b" ++
      "\u0014\u0015\u009e\u001a\u0020\u00a0âäàáãåçñ¢.<(+|&éêëèíîïìß!$*);¬-/ÂÄÀÁÃÅÇÑ¦,%_>?øÉ" ++
      "ÊËÈÍÎÏÌ\x60:#@'=\x22Øabcdefghi«»ðýþ±°jklmnopqrªºæ¸Æ€µ~stuvwxyz¡¿ÐÝÞ®^£¥·©§¶¼½¾[]¯¨´×" ++
      "\x7bABCDEFGHI\u00adôöòóõ\x7dJKLMNOPQR¹ûüùúÿ\x5c÷STUVWXYZ²ÔÖÒÓÕ01" ++
      "23456789³ÛÜÙÚ\u009f").toList⟩,
   ⟨"cp273", ["273", "csibm273", "ibm273"], 0x4,
     ("\u009c\u0009\u0086\u007f\u0097\u008d\u008e\u000b\u000c\u000d\u000e\u000f\u0010\u0011" ++
      "\u0012\u0013\u009d\u0085\u0008\u0087\u0018\u0019\u0092\u008f\u001c\u001d\u001e\u001f" ++
      "\u0080\u0081\u0082\u0083\u0084\u000a\u0017\u001b\u0088\u0089\u008a\u008b\u008c\u0005" ++
      "\u0006\u0007\u0090\u0091\u0016\u0093\u0094\u0095\u0096\u0004\u0098\u0099\u009a\u009b" ++
      "\u0014\u0015\u009e\u001a\u0020\u00a0â\x7bàáãåçñÄ.<(+!&éêëèíîïì~Ü$*);^-/Â[ÀÁÃÅÇÑö,%_>" ++
      "?øÉÊËÈÍÎÏÌ\x60:#§'=\x22Øabcdefghi«»ðýþ±°jklmnopqrªºæ¸Æ¤µßstuvwxyz¡¿ÐÝÞ®¢£¥·©@¶¼½¾¬|‾" ++
      "¨´×äABCDEFGHI\u00adô¦òóõüJKLMNOPQR¹û\x7dùúÿÖ÷STUVWXYZ²Ô\x5cÒÓÕ01" ++
      "23456789³Û]ÙÚ\u009f").toList⟩,
   ⟨"cp424", ["424", "csibm424", "ebcdic_cp_he", "ibm424"], 0x4,
     ("\u009c\u0009\u0086\u007f\u0097\u008d\u008e\u000b\u000c\u000d\u000e\u000f\u0010\u0011" ++
      "\u0012\u0013\u009d\u0085\u0008\u0087\u0018\u0019\u0092\u008f\u001c\u001d\u001e\u001f" ++
      "\u0080\u0081\u0082\u0083\u0084\u000a\u0017\u001b\u0088\u0089\u008a\u008b\u008c\u0005" ++
      "\u0006\u0007\u0090\u0091\u0016\u0093\u0094\u0095\u0096\u0004\u0098\u0099\u009a\u009b" ++
      "\u0014\u0015\u009e\u001a\u0020\u05d0\u05d1\u05d2\u05d3\u05d4\u05d5\u05d6\u05d7\u05d8" ++
      "¢.<(+|&\u05d9\u05da\u05db\u05dc\u05dd\u05de\u05df\u05e0\u05e1!$*);¬-/\u05e2\u05e3" ++
      "\u05e4\u05e5\u05e6\u05e7\u05e8\u05e9¦,%_>?\ufffd\u05ea\ufffd\ufffd\u00a0\ufffd\ufffd" ++
      "\ufffd‗\x60:#@'=\x22\ufffdabcdefghi«»\ufffd\ufffd\ufffd±°jklmnopqr\ufffd\ufffd\ufffd" ++
      "¸\ufffd¤µ~stuvwxyz\ufffd\ufffd\ufffd\ufffd\ufffd®^£¥·©§¶¼½¾[]¯¨´×\x7bABCDEFGHI\u00ad" ++
      "\ufffd\ufffd\ufffd\ufffd\ufffd\x7dJKLMNOPQR¹\ufffd\ufffd\ufffd\ufffd\ufffd\x5c÷STUVW" ++
      "XYZ²\ufffd\ufffd\ufffd\ufffd\ufffd0123456789³\ufffd\ufffd\ufffd\ufffd\u009f").toList⟩,
   ⟨"cp500", ["500", "csibm500", "ebcdic_cp_be", "ebcdic_cp_ch", "ibm500"], 0x4,
     ("\u009c\u0009\u0086\u007f\u0097\u008d\u008e\u000b\u000c\u000d\u000e\u000f\u0010\u0011" ++
      "\u0012\u0013\u009d\u0085\u0008\u0087\u0018\u0019\u0092\u008f\u001c\u001d\u001e\u001f" ++
      "\u0080\u0081\u0082\u0083\u0084\u000a\u0017\u001b\u0088\u0089\u008a\u008b\u008c\u0005" ++
      "\u0006\u0007\u0090\u0091\u0016\u0093\u0094\u0095\u0096\u0004\u0098\u0099\u009a\u009b" ++
      "\u0014\u0015\u009e\u001a\u0020\u00a0âäàáãåçñ[.<(+!&éêëèíîïìß]$*);^-/ÂÄÀÁÃÅÇÑ¦,%_>?øÉ" ++
      "ÊËÈÍÎÏÌ\x60:#@'=\x22Øabcdefghi«»ðýþ±°jklmnopqrªºæ¸Æ¤µ~stuvwxyz¡¿ÐÝÞ®¢£¥·©§¶¼½¾¬|¯¨´×" ++
      "\x7bABCDEFGHI\u00adôöòóõ\x7dJKLMNOPQR¹ûüùúÿ\x5c÷STUVWXYZ²ÔÖÒÓÕ01" ++
      "23456789³ÛÜÙÚ\u009f").toList⟩,
   ⟨"cp864", ["864", "csibm864", "ibm864"], 0x25,
     ("٪&'()*+,-./0123456789:;<=>?@ABCDEFGHIJKLMNOPQRSTUVWXYZ[\x5c]^_\x60abcdefghijklmnopqr" ++
      "stuvwxyz\x7b|\x7d~\u007f°·∙√▒─│┼┤┬├┴┐┌└┘β∞φ±½¼≈«»\ufef7\ufef8\ufffd\ufffd\ufefb" ++
      "\ufefc\ufffd\u00a0\u00ad\ufe82£¤\ufe84\ufffd\ufffd\ufe8e\ufe8f\ufe95\ufe99،\ufe9d" ++
      "\ufea1\ufea5٠١٢٣٤٥٦٧٨٩\ufed1\u061b\ufeb1\ufeb5\ufeb9\u061f¢\ufe80\ufe81\ufe83\ufe85" ++
      "\ufeca\ufe8b\ufe8d\ufe91\ufe93\ufe97\ufe9b\ufe9f\ufea3\ufea7\ufea9\ufeab\ufead\ufeaf" ++
      "\ufeb3\ufeb7\ufebb\ufebf\ufec1\ufec5\ufecb\ufecf¦¬÷×\ufec9\u0640\ufed3\ufed7\ufedb" ++
      "\ufedf\ufee3\ufee7\ufeeb\ufeed\ufeef\ufef3\ufebd\ufecc\ufece\ufecd\ufee1\ufe7d\u0651" ++
      "\ufee5\ufee9\ufeec\ufef0\ufef2\ufed0\ufed5\ufef5\ufef6\ufedd\ufed9\ufef1■\ufffd").toList⟩,
   ⟨"cp875", [], 0x4,
     ("\u009c\u0009\u0086\u007f\u0097\u008d\u008e\u000b\u000c\u000d\u000e\u000f\u0010\u0011" ++
      "\u0012\u0013\u009d\u0085\u0008\u0087\u0018\u0019\u0092\u008f\u001c\u001d\u001e\u001f" ++
      "\u0080\u0081\u0082\u0083\u0084\u000a\u0017\u001b\u0088\u0089\u008a\u008b\u008c\u0005" ++
      "\u0006\u0007\u0090\u0091\u0016\u0093\u0094\u0095\u0096\u0004\u0098\u0099\u009a\u009b" ++
      "\u0014\u0015\u009e\u001a\u0020ΑΒΓΔΕΖΗΘΙ[.<(+!&ΚΛΜΝΞΟΠΡΣ]$*);^-/ΤΥΦΧΨΩΪΫ|,%_>?¨ΆΈΉ" ++
      "\u00a0ΊΌΎΏ\x60:#@'=\x22΅abcdefghiαβγδεζ°jklmnopqrηθικλμ´~stuvwxyzνξοπρσ£άέήϊίόύϋώςτυ" ++
      "φχψ\x7bABCDEFGHI\u00adωΐΰ‘―\x7dJKLMNOPQR±½\u001a·’¦\x5c\u001aSTUVWXYZ²§\u001a\u001a«" ++
      "¬0123456789³©\u001a\u001a»\u009f").toList⟩]

/-- All code pages. -/
def codePages : List CodePage :=
  numberedPages ++ windowPages ++ standardPages ++ scriptPages ++ otherPages ++ foreignPages

end Routebook.Text
