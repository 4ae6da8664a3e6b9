import Routebook.Terminal.Symbol

/-!
# Pictures by name

The pictures that a terminal knows by name.  Most are one character.  Others are put together: flags
from the two letters of a country, persons from a figure, the tone of its skin and what it does.
-/

namespace Routebook.Terminal

set_option autoImplicit false

/-- The pictures that are put together from several characters. -/
def composedPictures : List (String × List Char) :=
  [("bald_man", ['👨', '\u200D', '🦲']), ("bald_woman", ['👩', '\u200D', '🦲']),
   ("blond-haired_man", ['👱', '\u200D', '♂', '\uFE0F']),
   ("blond-haired_woman", ['👱', '\u200D', '♀', '\uFE0F']), ("cocos_(keeling)_islands", ['🇨', '🇨']),
   ("congo_-_brazzaville", ['🇨', '🇬']), ("congo_-_kinshasa", ['🇨', '🇩']),
   ("couple_with_heart_man_man", ['👨', '\u200D', '❤', '\uFE0F', '\u200D', '👨']),
   ("couple_with_heart_woman_man", ['👩', '\u200D', '❤', '\uFE0F', '\u200D', '👨']),
   ("couple_with_heart_woman_woman", ['👩', '\u200D', '❤', '\uFE0F', '\u200D', '👩']),
   ("curly-haired_man", ['👨', '\u200D', '🦱']), ("curly-haired_woman", ['👩', '\u200D', '🦱']),
   ("czechia", ['🇨', '🇿']), ("eight", ['8', '\uFE0F', '\u20E3']),
   ("england", ['🏴', Char.ofNat 0xE0067, Char.ofNat 0xE0062, Char.ofNat 0xE0065, Char.ofNat 0xE006E, Char.ofNat 0xE0067, Char.ofNat 0xE007F]),
   ("eye_in_speech_bubble", ['👁', '\uFE0F', '\u200D', '🗨', '\uFE0F']),
   ("family_man_boy", ['👨', '\u200D', '👦']),
   ("family_man_boy_boy", ['👨', '\u200D', '👦', '\u200D', '👦']),
   ("family_man_girl", ['👨', '\u200D', '👧']),
   ("family_man_girl_boy", ['👨', '\u200D', '👧', '\u200D', '👦']),
   ("family_man_girl_girl", ['👨', '\u200D', '👧', '\u200D', '👧']),
   ("family_man_man_boy", ['👨', '\u200D', '👨', '\u200D', '👦']),
   ("family_man_man_boy_boy", ['👨', '\u200D', '👨', '\u200D', '👦', '\u200D', '👦']),
   ("family_man_man_girl", ['👨', '\u200D', '👨', '\u200D', '👧']),
   ("family_man_man_girl_boy", ['👨', '\u200D', '👨', '\u200D', '👧', '\u200D', '👦']),
   ("family_man_man_girl_girl", ['👨', '\u200D', '👨', '\u200D', '👧', '\u200D', '👧']),
   ("family_man_woman_boy", ['👨', '\u200D', '👩', '\u200D', '👦']),
   ("family_man_woman_boy_boy", ['👨', '\u200D', '👩', '\u200D', '👦', '\u200D', '👦']),
   ("family_man_woman_girl", ['👨', '\u200D', '👩', '\u200D', '👧']),
   ("family_man_woman_girl_boy", ['👨', '\u200D', '👩', '\u200D', '👧', '\u200D', '👦']),
   ("family_man_woman_girl_girl", ['👨', '\u200D', '👩', '\u200D', '👧', '\u200D', '👧']),
   ("family_woman_boy", ['👩', '\u200D', '👦']),
   ("family_woman_boy_boy", ['👩', '\u200D', '👦', '\u200D', '👦']),
   ("family_woman_girl", ['👩', '\u200D', '👧']),
   ("family_woman_girl_boy", ['👩', '\u200D', '👧', '\u200D', '👦']),
   ("family_woman_girl_girl", ['👩', '\u200D', '👧', '\u200D', '👧']),
   ("family_woman_woman_boy", ['👩', '\u200D', '👩', '\u200D', '👦']),
   ("family_woman_woman_boy_boy", ['👩', '\u200D', '👩', '\u200D', '👦', '\u200D', '👦']),
   ("family_woman_woman_girl", ['👩', '\u200D', '👩', '\u200D', '👧']),
   ("family_woman_woman_girl_boy", ['👩', '\u200D', '👩', '\u200D', '👧', '\u200D', '👦']),
   ("family_woman_woman_girl_girl", ['👩', '\u200D', '👩', '\u200D', '👧', '\u200D', '👧']),
   ("five", ['5', '\uFE0F', '\u20E3']), ("flag_for_cocos__islands", ['🇨', '🇨']),
   ("flag_for_congo____brazzaville", ['🇨', '🇬']), ("flag_for_congo____kinshasa", ['🇨', '🇩']),
   ("flag_for_czech_republic", ['🇨', '🇿']), ("flag_for_guinea__bissau", ['🇬', '🇼']),
   ("flag_for_hong_kong", ['🇭', '🇰']), ("flag_for_japan", ['🇯', '🇵']),
   ("flag_for_macau", ['🇲', '🇴']), ("flag_for_myanmar", ['🇲', '🇲']),
   ("flag_for_timor__leste", ['🇹', '🇱']), ("flag_for_turkey", ['🇹', '🇷']),
   ("four", ['4', '\uFE0F', '\u20E3']), ("guinea-bissau", ['🇬', '🇼']),
   ("hong_kong_sar_china", ['🇭', '🇰']), ("keycap_#", ['#', '\uFE0F', '\u20E3']),
   ("keycap_*", ['*', '\uFE0F', '\u20E3']), ("keycap_0", ['0', '\uFE0F', '\u20E3']),
   ("keycap_1", ['1', '\uFE0F', '\u20E3']), ("keycap_2", ['2', '\uFE0F', '\u20E3']),
   ("keycap_3", ['3', '\uFE0F', '\u20E3']), ("keycap_4", ['4', '\uFE0F', '\u20E3']),
   ("keycap_5", ['5', '\uFE0F', '\u20E3']), ("keycap_6", ['6', '\uFE0F', '\u20E3']),
   ("keycap_7", ['7', '\uFE0F', '\u20E3']), ("keycap_8", ['8', '\uFE0F', '\u20E3']),
   ("keycap_9", ['9', '\uFE0F', '\u20E3']), ("keycap_asterisk", ['*', '\u20E3']),
   ("keycap_digit_eight", ['8', '\u20E3']), ("keycap_digit_five", ['5', '\u20E3']),
   ("keycap_digit_four", ['4', '\u20E3']), ("keycap_digit_nine", ['9', '\u20E3']),
   ("keycap_digit_one", ['1', '\u20E3']), ("keycap_digit_seven", ['7', '\u20E3']),
   ("keycap_digit_six", ['6', '\u20E3']), ("keycap_digit_three", ['3', '\u20E3']),
   ("keycap_digit_two", ['2', '\u20E3']), ("keycap_digit_zero", ['0', '\u20E3']),
   ("keycap_number_sign", ['#', '\u20E3']),
   ("kiss_man_man", ['👨', '\u200D', '❤', '\uFE0F', '\u200D', '💋', '\u200D', '👨']),
   ("kiss_woman_man", ['👩', '\u200D', '❤', '\uFE0F', '\u200D', '💋', '\u200D', '👨']),
   ("kiss_woman_woman", ['👩', '\u200D', '❤', '\uFE0F', '\u200D', '💋', '\u200D', '👩']),
   ("macau_sar_china", ['🇲', '🇴']), ("man_artist", ['👨', '\u200D', '🎨']),
   ("man_astronaut", ['👨', '\u200D', '🚀']), ("man_biking", ['🚴', '\u200D', '♂', '\uFE0F']),
   ("man_bouncing_ball", ['⛹', '\uFE0F', '\u200D', '♂', '\uFE0F']),
   ("man_bowing", ['🙇', '\u200D', '♂', '\uFE0F']),
   ("man_cartwheeling", ['🤸', '\u200D', '♂', '\uFE0F']),
   ("man_climbing", ['🧗', '\u200D', '♂', '\uFE0F']),
   ("man_construction_worker", ['👷', '\u200D', '♂', '\uFE0F']), ("man_cook", ['👨', '\u200D', '🍳']),
   ("man_detective", ['🕵', '\uFE0F', '\u200D', '♂', '\uFE0F']),
   ("man_elf", ['🧝', '\u200D', '♂', '\uFE0F']), ("man_facepalming", ['🤦', '\u200D', '♂', '\uFE0F']),
   ("man_factory_worker", ['👨', '\u200D', '🏭']), ("man_fairy", ['🧚', '\u200D', '♂', '\uFE0F']),
   ("man_farmer", ['👨', '\u200D', '🌾']), ("man_firefighter", ['👨', '\u200D', '🚒']),
   ("man_frowning", ['🙍', '\u200D', '♂', '\uFE0F']), ("man_genie", ['🧞', '\u200D', '♂', '\uFE0F']),
   ("man_gesturing_no", ['🙅', '\u200D', '♂', '\uFE0F']),
   ("man_gesturing_ok", ['🙆', '\u200D', '♂', '\uFE0F']),
   ("man_getting_haircut", ['💇', '\u200D', '♂', '\uFE0F']),
   ("man_getting_massage", ['💆', '\u200D', '♂', '\uFE0F']),
   ("man_golfing", ['🏌', '\uFE0F', '\u200D', '♂', '\uFE0F']),
   ("man_guard", ['💂', '\u200D', '♂', '\uFE0F']),
   ("man_health_worker", ['👨', '\u200D', '⚕', '\uFE0F']),
   ("man_in_lotus_position", ['🧘', '\u200D', '♂', '\uFE0F']),
   ("man_in_manual_wheelchair", ['👨', '\u200D', '🦽']),
   ("man_in_motorized_wheelchair", ['👨', '\u200D', '🦼']),
   ("man_in_steamy_room", ['🧖', '\u200D', '♂', '\uFE0F']),
   ("man_judge", ['👨', '\u200D', '⚖', '\uFE0F']), ("man_juggling", ['🤹', '\u200D', '♂', '\uFE0F']),
   ("man_lifting_weights", ['🏋', '\uFE0F', '\u200D', '♂', '\uFE0F']),
   ("man_mage", ['🧙', '\u200D', '♂', '\uFE0F']), ("man_mechanic", ['👨', '\u200D', '🔧']),
   ("man_mountain_biking", ['🚵', '\u200D', '♂', '\uFE0F']),
   ("man_office_worker", ['👨', '\u200D', '💼']), ("man_pilot", ['👨', '\u200D', '✈', '\uFE0F']),
   ("man_playing_handball", ['🤾', '\u200D', '♂', '\uFE0F']),
   ("man_playing_water_polo", ['🤽', '\u200D', '♂', '\uFE0F']),
   ("man_police_officer", ['👮', '\u200D', '♂', '\uFE0F']),
   ("man_pouting", ['🙎', '\u200D', '♂', '\uFE0F']),
   ("man_raising_hand", ['🙋', '\u200D', '♂', '\uFE0F']),
   ("man_rowing_boat", ['🚣', '\u200D', '♂', '\uFE0F']),
   ("man_running", ['🏃', '\u200D', '♂', '\uFE0F']), ("man_scientist", ['👨', '\u200D', '🔬']),
   ("man_shrugging", ['🤷', '\u200D', '♂', '\uFE0F']), ("man_singer", ['👨', '\u200D', '🎤']),
   ("man_student", ['👨', '\u200D', '🎓']), ("man_surfing", ['🏄', '\u200D', '♂', '\uFE0F']),
   ("man_swimming", ['🏊', '\u200D', '♂', '\uFE0F']), ("man_teacher", ['👨', '\u200D', '🏫']),
   ("man_technologist", ['👨', '\u200D', '💻']), ("man_tipping_hand", ['💁', '\u200D', '♂', '\uFE0F']),
   ("man_vampire", ['🧛', '\u200D', '♂', '\uFE0F']), ("man_walking", ['🚶', '\u200D', '♂', '\uFE0F']),
   ("man_wearing_turban", ['👳', '\u200D', '♂', '\uFE0F']),
   ("man_with_probing_cane", ['👨', '\u200D', '🦯']), ("man_zombie", ['🧟', '\u200D', '♂', '\uFE0F']),
   ("men_with_bunny_ears", ['👯', '\u200D', '♂', '\uFE0F']),
   ("men_wrestling", ['🤼', '\u200D', '♂', '\uFE0F']), ("mermaid", ['🧜', '\u200D', '♀', '\uFE0F']),
   ("merman", ['🧜', '\u200D', '♂', '\uFE0F']), ("myanmar_(burma)", ['🇲', '🇲']),
   ("nine", ['9', '\uFE0F', '\u20E3']), ("one", ['1', '\uFE0F', '\u20E3']),
   ("people_holding_hands", ['🧑', '\u200D', '🤝', '\u200D', '🧑']),
   ("pirate_flag", ['🏴', '\u200D', '☠', '\uFE0F']),
   ("rainbow_flag", ['🏳', '\uFE0F', '\u200D', '🌈']), ("red-haired_man", ['👨', '\u200D', '🦰']),
   ("red-haired_woman", ['👩', '\u200D', '🦰']),
   ("scotland", ['🏴', Char.ofNat 0xE0067, Char.ofNat 0xE0062, Char.ofNat 0xE0073, Char.ofNat 0xE0063, Char.ofNat 0xE0074, Char.ofNat 0xE007F]),
   ("service_dog", ['🐕', '\u200D', '🦺']), ("seven", ['7', '\uFE0F', '\u20E3']),
   ("six", ['6', '\uFE0F', '\u20E3']), ("three", ['3', '\uFE0F', '\u20E3']),
   ("timor-leste", ['🇹', '🇱']), ("two", ['2', '\uFE0F', '\u20E3']), ("united_nations", ['🇺', '🇳']),
   ("wales", ['🏴', Char.ofNat 0xE0067, Char.ofNat 0xE0062, Char.ofNat 0xE0077, Char.ofNat 0xE006C, Char.ofNat 0xE0073, Char.ofNat 0xE007F]),
   ("white-haired_man", ['👨', '\u200D', '🦳']), ("white-haired_woman", ['👩', '\u200D', '🦳']),
   ("woman_artist", ['👩', '\u200D', '🎨']), ("woman_astronaut", ['👩', '\u200D', '🚀']),
   ("woman_biking", ['🚴', '\u200D', '♀', '\uFE0F']),
   ("woman_bouncing_ball", ['⛹', '\uFE0F', '\u200D', '♀', '\uFE0F']),
   ("woman_bowing", ['🙇', '\u200D', '♀', '\uFE0F']),
   ("woman_cartwheeling", ['🤸', '\u200D', '♀', '\uFE0F']),
   ("woman_climbing", ['🧗', '\u200D', '♀', '\uFE0F']),
   ("woman_construction_worker", ['👷', '\u200D', '♀', '\uFE0F']),
   ("woman_cook", ['👩', '\u200D', '🍳']),
   ("woman_detective", ['🕵', '\uFE0F', '\u200D', '♀', '\uFE0F']),
   ("woman_elf", ['🧝', '\u200D', '♀', '\uFE0F']),
   ("woman_facepalming", ['🤦', '\u200D', '♀', '\uFE0F']),
   ("woman_factory_worker", ['👩', '\u200D', '🏭']), ("woman_fairy", ['🧚', '\u200D', '♀', '\uFE0F']),
   ("woman_farmer", ['👩', '\u200D', '🌾']), ("woman_firefighter", ['👩', '\u200D', '🚒']),
   ("woman_frowning", ['🙍', '\u200D', '♀', '\uFE0F']),
   ("woman_genie", ['🧞', '\u200D', '♀', '\uFE0F']),
   ("woman_gesturing_no", ['🙅', '\u200D', '♀', '\uFE0F']),
   ("woman_gesturing_ok", ['🙆', '\u200D', '♀', '\uFE0F']),
   ("woman_getting_haircut", ['💇', '\u200D', '♀', '\uFE0F']),
   ("woman_getting_massage", ['💆', '\u200D', '♀', '\uFE0F']),
   ("woman_golfing", ['🏌', '\uFE0F', '\u200D', '♀', '\uFE0F']),
   ("woman_guard", ['💂', '\u200D', '♀', '\uFE0F']),
   ("woman_health_worker", ['👩', '\u200D', '⚕', '\uFE0F']),
   ("woman_in_lotus_position", ['🧘', '\u200D', '♀', '\uFE0F']),
   ("woman_in_manual_wheelchair", ['👩', '\u200D', '🦽']),
   ("woman_in_motorized_wheelchair", ['👩', '\u200D', '🦼']),
   ("woman_in_steamy_room", ['🧖', '\u200D', '♀', '\uFE0F']),
   ("woman_judge", ['👩', '\u200D', '⚖', '\uFE0F']),
   ("woman_juggling", ['🤹', '\u200D', '♀', '\uFE0F']),
   ("woman_lifting_weights", ['🏋', '\uFE0F', '\u200D', '♀', '\uFE0F']),
   ("woman_mage", ['🧙', '\u200D', '♀', '\uFE0F']), ("woman_mechanic", ['👩', '\u200D', '🔧']),
   ("woman_mountain_biking", ['🚵', '\u200D', '♀', '\uFE0F']),
   ("woman_office_worker", ['👩', '\u200D', '💼']), ("woman_pilot", ['👩', '\u200D', '✈', '\uFE0F']),
   ("woman_playing_handball", ['🤾', '\u200D', '♀', '\uFE0F']),
   ("woman_playing_water_polo", ['🤽', '\u200D', '♀', '\uFE0F']),
   ("woman_police_officer", ['👮', '\u200D', '♀', '\uFE0F']),
   ("woman_pouting", ['🙎', '\u200D', '♀', '\uFE0F']),
   ("woman_raising_hand", ['🙋', '\u200D', '♀', '\uFE0F']),
   ("woman_rowing_boat", ['🚣', '\u200D', '♀', '\uFE0F']),
   ("woman_running", ['🏃', '\u200D', '♀', '\uFE0F']), ("woman_scientist", ['👩', '\u200D', '🔬']),
   ("woman_shrugging", ['🤷', '\u200D', '♀', '\uFE0F']), ("woman_singer", ['👩', '\u200D', '🎤']),
   ("woman_student", ['👩', '\u200D', '🎓']), ("woman_surfing", ['🏄', '\u200D', '♀', '\uFE0F']),
   ("woman_swimming", ['🏊', '\u200D', '♀', '\uFE0F']), ("woman_teacher", ['👩', '\u200D', '🏫']),
   ("woman_technologist", ['👩', '\u200D', '💻']),
   ("woman_tipping_hand", ['💁', '\u200D', '♀', '\uFE0F']),
   ("woman_vampire", ['🧛', '\u200D', '♀', '\uFE0F']),
   ("woman_walking", ['🚶', '\u200D', '♀', '\uFE0F']),
   ("woman_wearing_turban", ['👳', '\u200D', '♀', '\uFE0F']),
   ("woman_with_probing_cane", ['👩', '\u200D', '🦯']),
   ("woman_zombie", ['🧟', '\u200D', '♀', '\uFE0F']),
   ("women_with_bunny_ears", ['👯', '\u200D', '♀', '\uFE0F']),
   ("women_wrestling", ['🤼', '\u200D', '♀', '\uFE0F']), ("zero", ['0', '\uFE0F', '\u20E3'])]

/-- The flags of countries. -/
def flags : List (String × List Char) :=
  [("afghanistan", ['🇦', '🇫']), ("albania", ['🇦', '🇱']), ("algeria", ['🇩', '🇿']),
   ("american_samoa", ['🇦', '🇸']), ("andorra", ['🇦', '🇩']), ("angola", ['🇦', '🇴']),
   ("anguilla", ['🇦', '🇮']), ("antarctica", ['🇦', '🇶']), ("antigua_&_barbuda", ['🇦', '🇬']),
   ("argentina", ['🇦', '🇷']), ("armenia", ['🇦', '🇲']), ("aruba", ['🇦', '🇼']),
   ("ascension_island", ['🇦', '🇨']), ("australia", ['🇦', '🇺']), ("austria", ['🇦', '🇹']),
   ("azerbaijan", ['🇦', '🇿']), ("bahamas", ['🇧', '🇸']), ("bahrain", ['🇧', '🇭']),
   ("bangladesh", ['🇧', '🇩']), ("barbados", ['🇧', '🇧']), ("belarus", ['🇧', '🇾']),
   ("belgium", ['🇧', '🇪']), ("belize", ['🇧', '🇿']), ("benin", ['🇧', '🇯']), ("bermuda", ['🇧', '🇲']),
   ("bhutan", ['🇧', '🇹']), ("bolivia", ['🇧', '🇴']), ("bosnia_&_herzegovina", ['🇧', '🇦']),
   ("botswana", ['🇧', '🇼']), ("bouvet_island", ['🇧', '🇻']), ("brazil", ['🇧', '🇷']),
   ("british_indian_ocean_territory", ['🇮', '🇴']), ("british_virgin_islands", ['🇻', '🇬']),
   ("brunei", ['🇧', '🇳']), ("bulgaria", ['🇧', '🇬']), ("burkina_faso", ['🇧', '🇫']),
   ("burundi", ['🇧', '🇮']), ("cambodia", ['🇰', '🇭']), ("cameroon", ['🇨', '🇲']),
   ("canada", ['🇨', '🇦']), ("canary_islands", ['🇮', '🇨']), ("cape_verde", ['🇨', '🇻']),
   ("caribbean_netherlands", ['🇧', '🇶']), ("cayman_islands", ['🇰', '🇾']),
   ("central_african_republic", ['🇨', '🇫']), ("ceuta_&_melilla", ['🇪', '🇦']), ("chad", ['🇹', '🇩']),
   ("chile", ['🇨', '🇱']), ("china", ['🇨', '🇳']), ("christmas_island", ['🇨', '🇽']),
   ("clipperton_island", ['🇨', '🇵']), ("colombia", ['🇨', '🇴']), ("comoros", ['🇰', '🇲']),
   ("cook_islands", ['🇨', '🇰']), ("costa_rica", ['🇨', '🇷']), ("croatia", ['🇭', '🇷']),
   ("cuba", ['🇨', '🇺']), ("curaçao", ['🇨', '🇼']), ("cyprus", ['🇨', '🇾']),
   ("côte_d’ivoire", ['🇨', '🇮']), ("denmark", ['🇩', '🇰']), ("diego_garcia", ['🇩', '🇬']),
   ("djibouti", ['🇩', '🇯']), ("dominica", ['🇩', '🇲']), ("dominican_republic", ['🇩', '🇴']),
   ("ecuador", ['🇪', '🇨']), ("egypt", ['🇪', '🇬']), ("el_salvador", ['🇸', '🇻']),
   ("equatorial_guinea", ['🇬', '🇶']), ("eritrea", ['🇪', '🇷']), ("estonia", ['🇪', '🇪']),
   ("ethiopia", ['🇪', '🇹']), ("european_union", ['🇪', '🇺']), ("falkland_islands", ['🇫', '🇰']),
   ("faroe_islands", ['🇫', '🇴']), ("fiji", ['🇫', '🇯']), ("finland", ['🇫', '🇮']),
   ("france", ['🇫', '🇷']), ("french_guiana", ['🇬', '🇫']), ("french_polynesia", ['🇵', '🇫']),
   ("french_southern_territories", ['🇹', '🇫']), ("gabon", ['🇬', '🇦']), ("gambia", ['🇬', '🇲']),
   ("georgia", ['🇬', '🇪']), ("germany", ['🇩', '🇪']), ("ghana", ['🇬', '🇭']),
   ("gibraltar", ['🇬', '🇮']), ("greece", ['🇬', '🇷']), ("greenland", ['🇬', '🇱']),
   ("grenada", ['🇬', '🇩']), ("guadeloupe", ['🇬', '🇵']), ("guam", ['🇬', '🇺']),
   ("guatemala", ['🇬', '🇹']), ("guernsey", ['🇬', '🇬']), ("guinea", ['🇬', '🇳']),
   ("guyana", ['🇬', '🇾']), ("haiti", ['🇭', '🇹']), ("heard_&_mcdonald_islands", ['🇭', '🇲']),
   ("honduras", ['🇭', '🇳']), ("hungary", ['🇭', '🇺']), ("iceland", ['🇮', '🇸']),
   ("india", ['🇮', '🇳']), ("indonesia", ['🇮', '🇩']), ("iran", ['🇮', '🇷']), ("iraq", ['🇮', '🇶']),
   ("ireland", ['🇮', '🇪']), ("isle_of_man", ['🇮', '🇲']), ("israel", ['🇮', '🇱']),
   ("italy", ['🇮', '🇹']), ("jamaica", ['🇯', '🇲']), ("jersey", ['🇯', '🇪']), ("jordan", ['🇯', '🇴']),
   ("kazakhstan", ['🇰', '🇿']), ("kenya", ['🇰', '🇪']), ("kiribati", ['🇰', '🇮']),
   ("kosovo", ['🇽', '🇰']), ("kuwait", ['🇰', '🇼']), ("kyrgyzstan", ['🇰', '🇬']), ("laos", ['🇱', '🇦']),
   ("latvia", ['🇱', '🇻']), ("lebanon", ['🇱', '🇧']), ("lesotho", ['🇱', '🇸']),
   ("liberia", ['🇱', '🇷']), ("libya", ['🇱', '🇾']), ("liechtenstein", ['🇱', '🇮']),
   ("lithuania", ['🇱', '🇹']), ("luxembourg", ['🇱', '🇺']), ("macedonia", ['🇲', '🇰']),
   ("madagascar", ['🇲', '🇬']), ("malawi", ['🇲', '🇼']), ("malaysia", ['🇲', '🇾']),
   ("maldives", ['🇲', '🇻']), ("mali", ['🇲', '🇱']), ("malta", ['🇲', '🇹']),
   ("marshall_islands", ['🇲', '🇭']), ("martinique", ['🇲', '🇶']), ("mauritania", ['🇲', '🇷']),
   ("mauritius", ['🇲', '🇺']), ("mayotte", ['🇾', '🇹']), ("mexico", ['🇲', '🇽']),
   ("micronesia", ['🇫', '🇲']), ("moldova", ['🇲', '🇩']), ("monaco", ['🇲', '🇨']),
   ("mongolia", ['🇲', '🇳']), ("montenegro", ['🇲', '🇪']), ("montserrat", ['🇲', '🇸']),
   ("morocco", ['🇲', '🇦']), ("mozambique", ['🇲', '🇿']), ("namibia", ['🇳', '🇦']),
   ("nauru", ['🇳', '🇷']), ("nepal", ['🇳', '🇵']), ("netherlands", ['🇳', '🇱']),
   ("new_caledonia", ['🇳', '🇨']), ("new_zealand", ['🇳', '🇿']), ("nicaragua", ['🇳', '🇮']),
   ("niger", ['🇳', '🇪']), ("nigeria", ['🇳', '🇬']), ("niue", ['🇳', '🇺']),
   ("norfolk_island", ['🇳', '🇫']), ("north_korea", ['🇰', '🇵']),
   ("northern_mariana_islands", ['🇲', '🇵']), ("norway", ['🇳', '🇴']), ("oman", ['🇴', '🇲']),
   ("pakistan", ['🇵', '🇰']), ("palau", ['🇵', '🇼']), ("palestinian_territories", ['🇵', '🇸']),
   ("panama", ['🇵', '🇦']), ("papua_new_guinea", ['🇵', '🇬']), ("paraguay", ['🇵', '🇾']),
   ("peru", ['🇵', '🇪']), ("philippines", ['🇵', '🇭']), ("pitcairn_islands", ['🇵', '🇳']),
   ("poland", ['🇵', '🇱']), ("portugal", ['🇵', '🇹']), ("puerto_rico", ['🇵', '🇷']),
   ("qatar", ['🇶', '🇦']), ("romania", ['🇷', '🇴']), ("russia", ['🇷', '🇺']), ("rwanda", ['🇷', '🇼']),
   ("réunion", ['🇷', '🇪']), ("samoa", ['🇼', '🇸']), ("san_marino", ['🇸', '🇲']),
   ("saudi_arabia", ['🇸', '🇦']), ("senegal", ['🇸', '🇳']), ("serbia", ['🇷', '🇸']),
   ("seychelles", ['🇸', '🇨']), ("sierra_leone", ['🇸', '🇱']), ("singapore", ['🇸', '🇬']),
   ("sint_maarten", ['🇸', '🇽']), ("slovakia", ['🇸', '🇰']), ("slovenia", ['🇸', '🇮']),
   ("solomon_islands", ['🇸', '🇧']), ("somalia", ['🇸', '🇴']), ("south_africa", ['🇿', '🇦']),
   ("south_georgia_&_south_sandwich_islands", ['🇬', '🇸']), ("south_korea", ['🇰', '🇷']),
   ("south_sudan", ['🇸', '🇸']), ("spain", ['🇪', '🇸']), ("sri_lanka", ['🇱', '🇰']),
   ("st._barthélemy", ['🇧', '🇱']), ("st._helena", ['🇸', '🇭']), ("st._kitts_&_nevis", ['🇰', '🇳']),
   ("st._lucia", ['🇱', '🇨']), ("st._martin", ['🇲', '🇫']), ("st._pierre_&_miquelon", ['🇵', '🇲']),
   ("st._vincent_&_grenadines", ['🇻', '🇨']), ("sudan", ['🇸', '🇩']), ("suriname", ['🇸', '🇷']),
   ("svalbard_&_jan_mayen", ['🇸', '🇯']), ("swaziland", ['🇸', '🇿']), ("sweden", ['🇸', '🇪']),
   ("switzerland", ['🇨', '🇭']), ("syria", ['🇸', '🇾']), ("são_tomé_&_príncipe", ['🇸', '🇹']),
   ("taiwan", ['🇹', '🇼']), ("tajikistan", ['🇹', '🇯']), ("tanzania", ['🇹', '🇿']),
   ("thailand", ['🇹', '🇭']), ("togo", ['🇹', '🇬']), ("tokelau", ['🇹', '🇰']), ("tonga", ['🇹', '🇴']),
   ("trinidad_&_tobago", ['🇹', '🇹']), ("tristan_da_cunha", ['🇹', '🇦']), ("tunisia", ['🇹', '🇳']),
   ("turkmenistan", ['🇹', '🇲']), ("turks_&_caicos_islands", ['🇹', '🇨']), ("tuvalu", ['🇹', '🇻']),
   ("u.s._outlying_islands", ['🇺', '🇲']), ("u.s._virgin_islands", ['🇻', '🇮']),
   ("uganda", ['🇺', '🇬']), ("ukraine", ['🇺', '🇦']), ("united_arab_emirates", ['🇦', '🇪']),
   ("united_kingdom", ['🇬', '🇧']), ("united_states", ['🇺', '🇸']), ("uruguay", ['🇺', '🇾']),
   ("uzbekistan", ['🇺', '🇿']), ("vanuatu", ['🇻', '🇺']), ("vatican_city", ['🇻', '🇦']),
   ("venezuela", ['🇻', '🇪']), ("vietnam", ['🇻', '🇳']), ("wallis_&_futuna", ['🇼', '🇫']),
   ("western_sahara", ['🇪', '🇭']), ("yemen", ['🇾', '🇪']), ("zambia", ['🇿', '🇲']),
   ("zimbabwe", ['🇿', '🇼']), ("åland_islands", ['🇦', '🇽'])]

/-- A flag also goes by the name of a flag. -/
def flagPictures : List (String × List Char) :=
  flags ++ flags.map fun entry => ("flag_for_" ++ entry.1, entry.2)

/-- The tones of a skin. -/
def skinTones : List (String × Char) :=
  [("light", '🏻'), ("medium-light", '🏼'), ("medium", '🏽'), ("medium-dark", '🏾'), ("dark", '🏿')]

/-- The pictures that come in the tones of a skin: what stands before the tone and what follows. -/
def tonedPictures : List (String × List Char × List Char) :=
  [("adult", ['🧑'], []), ("baby", ['👶'], []), ("baby_angel", ['👼'], []),
   ("backhand_index_pointing_down", ['👇'], []), ("backhand_index_pointing_left", ['👈'], []),
   ("backhand_index_pointing_right", ['👉'], []), ("backhand_index_pointing_up", ['👆'], []),
   ("bearded_person", ['🧔'], []), ("blond-haired_man", ['👱'], ['\u200D', '♂', '\uFE0F']),
   ("blond-haired_person", ['👱'], []), ("blond-haired_woman", ['👱'], ['\u200D', '♀', '\uFE0F']),
   ("boy", ['👦'], []), ("breast-feeding", ['🤱'], []), ("bride_with_veil", ['👰'], []),
   ("call_me_hand", ['🤙'], []), ("child", ['🧒'], []), ("clapping_hands", ['👏'], []),
   ("construction_worker", ['👷'], []), ("crossed_fingers", ['🤞'], []), ("detective", ['🕵'], []),
   ("ear", ['👂'], []), ("elf", ['🧝'], []), ("fairy", ['🧚'], []), ("flexed_biceps", ['💪'], []),
   ("folded_hands", ['🙏'], []), ("girl", ['👧'], []), ("guard", ['💂'], []),
   ("hand_with_fingers_splayed", ['🖐'], []), ("horse_racing", ['🏇'], []),
   ("index_pointing_up", ['☝'], []), ("left-facing_fist", ['🤛'], []),
   ("love-you_gesture", ['🤟'], []), ("mage", ['🧙'], []), ("man", ['👨'], []),
   ("man_artist", ['👨'], ['\u200D', '🎨']), ("man_astronaut", ['👨'], ['\u200D', '🚀']),
   ("man_biking", ['🚴'], ['\u200D', '♂', '\uFE0F']),
   ("man_bouncing_ball", ['⛹'], ['\u200D', '♂', '\uFE0F']),
   ("man_bowing", ['🙇'], ['\u200D', '♂', '\uFE0F']),
   ("man_cartwheeling", ['🤸'], ['\u200D', '♂', '\uFE0F']),
   ("man_climbing", ['🧗'], ['\u200D', '♂', '\uFE0F']),
   ("man_construction_worker", ['👷'], ['\u200D', '♂', '\uFE0F']),
   ("man_cook", ['👨'], ['\u200D', '🍳']), ("man_dancing", ['🕺'], []),
   ("man_detective", ['🕵'], ['\u200D', '♂', '\uFE0F']),
   ("man_elf", ['🧝'], ['\u200D', '♂', '\uFE0F']),
   ("man_facepalming", ['🤦'], ['\u200D', '♂', '\uFE0F']),
   ("man_factory_worker", ['👨'], ['\u200D', '🏭']), ("man_fairy", ['🧚'], ['\u200D', '♂', '\uFE0F']),
   ("man_farmer", ['👨'], ['\u200D', '🌾']), ("man_firefighter", ['👨'], ['\u200D', '🚒']),
   ("man_frowning", ['🙍'], ['\u200D', '♂', '\uFE0F']),
   ("man_gesturing_no", ['🙅'], ['\u200D', '♂', '\uFE0F']),
   ("man_gesturing_ok", ['🙆'], ['\u200D', '♂', '\uFE0F']),
   ("man_getting_haircut", ['💇'], ['\u200D', '♂', '\uFE0F']),
   ("man_getting_massage", ['💆'], ['\u200D', '♂', '\uFE0F']),
   ("man_golfing", ['🏌'], ['\u200D', '♂', '\uFE0F']),
   ("man_guard", ['💂'], ['\u200D', '♂', '\uFE0F']),
   ("man_health_worker", ['👨'], ['\u200D', '⚕', '\uFE0F']),
   ("man_in_lotus_position", ['🧘'], ['\u200D', '♂', '\uFE0F']),
   ("man_in_steamy_room", ['🧖'], ['\u200D', '♂', '\uFE0F']), ("man_in_suit_levitating", ['🕴'], []),
   ("man_in_tuxedo", ['🤵'], []), ("man_judge", ['👨'], ['\u200D', '⚖', '\uFE0F']),
   ("man_juggling", ['🤹'], ['\u200D', '♂', '\uFE0F']),
   ("man_lifting_weights", ['🏋'], ['\u200D', '♂', '\uFE0F']),
   ("man_mage", ['🧙'], ['\u200D', '♂', '\uFE0F']), ("man_mechanic", ['👨'], ['\u200D', '🔧']),
   ("man_mountain_biking", ['🚵'], ['\u200D', '♂', '\uFE0F']),
   ("man_office_worker", ['👨'], ['\u200D', '💼']), ("man_pilot", ['👨'], ['\u200D', '✈', '\uFE0F']),
   ("man_playing_handball", ['🤾'], ['\u200D', '♂', '\uFE0F']),
   ("man_playing_water_polo", ['🤽'], ['\u200D', '♂', '\uFE0F']),
   ("man_police_officer", ['👮'], ['\u200D', '♂', '\uFE0F']),
   ("man_pouting", ['🙎'], ['\u200D', '♂', '\uFE0F']),
   ("man_raising_hand", ['🙋'], ['\u200D', '♂', '\uFE0F']),
   ("man_rowing_boat", ['🚣'], ['\u200D', '♂', '\uFE0F']),
   ("man_running", ['🏃'], ['\u200D', '♂', '\uFE0F']), ("man_scientist", ['👨'], ['\u200D', '🔬']),
   ("man_shrugging", ['🤷'], ['\u200D', '♂', '\uFE0F']), ("man_singer", ['👨'], ['\u200D', '🎤']),
   ("man_student", ['👨'], ['\u200D', '🎓']), ("man_surfing", ['🏄'], ['\u200D', '♂', '\uFE0F']),
   ("man_swimming", ['🏊'], ['\u200D', '♂', '\uFE0F']), ("man_teacher", ['👨'], ['\u200D', '🏫']),
   ("man_technologist", ['👨'], ['\u200D', '💻']),
   ("man_tipping_hand", ['💁'], ['\u200D', '♂', '\uFE0F']),
   ("man_vampire", ['🧛'], ['\u200D', '♂', '\uFE0F']),
   ("man_walking", ['🚶'], ['\u200D', '♂', '\uFE0F']),
   ("man_wearing_turban", ['👳'], ['\u200D', '♂', '\uFE0F']), ("man_with_chinese_cap", ['👲'], []),
   ("mermaid", ['🧜'], ['\u200D', '♀', '\uFE0F']), ("merman", ['🧜'], ['\u200D', '♂', '\uFE0F']),
   ("merperson", ['🧜'], []), ("middle_finger", ['🖕'], []), ("mrs._claus", ['🤶'], []),
   ("nail_polish", ['💅'], []), ("nose", ['👃'], []), ("ok_hand", ['👌'], []), ("old_man", ['👴'], []),
   ("old_woman", ['👵'], []), ("older_adult", ['🧓'], []), ("oncoming_fist", ['👊'], []),
   ("open_hands", ['👐'], []), ("palms_up_together", ['🤲'], []), ("person_biking", ['🚴'], []),
   ("person_bouncing_ball", ['⛹'], []), ("person_bowing", ['🙇'], []),
   ("person_cartwheeling", ['🤸'], []), ("person_climbing", ['🧗'], []),
   ("person_facepalming", ['🤦'], []), ("person_frowning", ['🙍'], []),
   ("person_gesturing_no", ['🙅'], []), ("person_gesturing_ok", ['🙆'], []),
   ("person_getting_haircut", ['💇'], []), ("person_getting_massage", ['💆'], []),
   ("person_golfing", ['🏌'], []), ("person_in_bed", ['🛌'], []),
   ("person_in_lotus_position", ['🧘'], []), ("person_in_steamy_room", ['🧖'], []),
   ("person_juggling", ['🤹'], []), ("person_lifting_weights", ['🏋'], []),
   ("person_mountain_biking", ['🚵'], []), ("person_playing_handball", ['🤾'], []),
   ("person_playing_water_polo", ['🤽'], []), ("person_pouting", ['🙎'], []),
   ("person_raising_hand", ['🙋'], []), ("person_rowing_boat", ['🚣'], []),
   ("person_running", ['🏃'], []), ("person_shrugging", ['🤷'], []), ("person_surfing", ['🏄'], []),
   ("person_swimming", ['🏊'], []), ("person_taking_bath", ['🛀'], []),
   ("person_tipping_hand", ['💁'], []), ("person_walking", ['🚶'], []),
   ("person_wearing_turban", ['👳'], []), ("police_officer", ['👮'], []),
   ("pregnant_woman", ['🤰'], []), ("prince", ['🤴'], []), ("princess", ['👸'], []),
   ("raised_back_of_hand", ['🤚'], []), ("raised_fist", ['✊'], []), ("raised_hand", ['✋'], []),
   ("raising_hands", ['🙌'], []), ("right-facing_fist", ['🤜'], []), ("santa_claus", ['🎅'], []),
   ("selfie", ['🤳'], []), ("sign_of_the_horns", ['🤘'], []), ("snowboarder", ['🏂'], []),
   ("thumbs_down", ['👎'], []), ("thumbs_up", ['👍'], []), ("vampire", ['🧛'], []),
   ("victory_hand", ['✌'], []), ("vulcan_salute", ['🖖'], []), ("waving_hand", ['👋'], []),
   ("woman", ['👩'], []), ("woman_artist", ['👩'], ['\u200D', '🎨']),
   ("woman_astronaut", ['👩'], ['\u200D', '🚀']), ("woman_biking", ['🚴'], ['\u200D', '♀', '\uFE0F']),
   ("woman_bouncing_ball", ['⛹'], ['\u200D', '♀', '\uFE0F']),
   ("woman_bowing", ['🙇'], ['\u200D', '♀', '\uFE0F']),
   ("woman_cartwheeling", ['🤸'], ['\u200D', '♀', '\uFE0F']),
   ("woman_climbing", ['🧗'], ['\u200D', '♀', '\uFE0F']),
   ("woman_construction_worker", ['👷'], ['\u200D', '♀', '\uFE0F']),
   ("woman_cook", ['👩'], ['\u200D', '🍳']), ("woman_dancing", ['💃'], []),
   ("woman_detective", ['🕵'], ['\u200D', '♀', '\uFE0F']),
   ("woman_elf", ['🧝'], ['\u200D', '♀', '\uFE0F']),
   ("woman_facepalming", ['🤦'], ['\u200D', '♀', '\uFE0F']),
   ("woman_factory_worker", ['👩'], ['\u200D', '🏭']),
   ("woman_fairy", ['🧚'], ['\u200D', '♀', '\uFE0F']), ("woman_farmer", ['👩'], ['\u200D', '🌾']),
   ("woman_firefighter", ['👩'], ['\u200D', '🚒']),
   ("woman_frowning", ['🙍'], ['\u200D', '♀', '\uFE0F']),
   ("woman_gesturing_no", ['🙅'], ['\u200D', '♀', '\uFE0F']),
   ("woman_gesturing_ok", ['🙆'], ['\u200D', '♀', '\uFE0F']),
   ("woman_getting_haircut", ['💇'], ['\u200D', '♀', '\uFE0F']),
   ("woman_getting_massage", ['💆'], ['\u200D', '♀', '\uFE0F']),
   ("woman_golfing", ['🏌'], ['\u200D', '♀', '\uFE0F']),
   ("woman_guard", ['💂'], ['\u200D', '♀', '\uFE0F']),
   ("woman_health_worker", ['👩'], ['\u200D', '⚕', '\uFE0F']),
   ("woman_in_lotus_position", ['🧘'], ['\u200D', '♀', '\uFE0F']),
   ("woman_in_steamy_room", ['🧖'], ['\u200D', '♀', '\uFE0F']),
   ("woman_judge", ['👩'], ['\u200D', '⚖', '\uFE0F']),
   ("woman_juggling", ['🤹'], ['\u200D', '♀', '\uFE0F']),
   ("woman_lifting_weights", ['🏋'], ['\u200D', '♀', '\uFE0F']),
   ("woman_mage", ['🧙'], ['\u200D', '♀', '\uFE0F']), ("woman_mechanic", ['👩'], ['\u200D', '🔧']),
   ("woman_mountain_biking", ['🚵'], ['\u200D', '♀', '\uFE0F']),
   ("woman_office_worker", ['👩'], ['\u200D', '💼']),
   ("woman_pilot", ['👩'], ['\u200D', '✈', '\uFE0F']),
   ("woman_playing_handball", ['🤾'], ['\u200D', '♀', '\uFE0F']),
   ("woman_playing_water_polo", ['🤽'], ['\u200D', '♀', '\uFE0F']),
   ("woman_police_officer", ['👮'], ['\u200D', '♀', '\uFE0F']),
   ("woman_pouting", ['🙎'], ['\u200D', '♀', '\uFE0F']),
   ("woman_raising_hand", ['🙋'], ['\u200D', '♀', '\uFE0F']),
   ("woman_rowing_boat", ['🚣'], ['\u200D', '♀', '\uFE0F']),
   ("woman_running", ['🏃'], ['\u200D', '♀', '\uFE0F']), ("woman_scientist", ['👩'], ['\u200D', '🔬']),
   ("woman_shrugging", ['🤷'], ['\u200D', '♀', '\uFE0F']), ("woman_singer", ['👩'], ['\u200D', '🎤']),
   ("woman_student", ['👩'], ['\u200D', '🎓']), ("woman_surfing", ['🏄'], ['\u200D', '♀', '\uFE0F']),
   ("woman_swimming", ['🏊'], ['\u200D', '♀', '\uFE0F']), ("woman_teacher", ['👩'], ['\u200D', '🏫']),
   ("woman_technologist", ['👩'], ['\u200D', '💻']),
   ("woman_tipping_hand", ['💁'], ['\u200D', '♀', '\uFE0F']),
   ("woman_vampire", ['🧛'], ['\u200D', '♀', '\uFE0F']),
   ("woman_walking", ['🚶'], ['\u200D', '♀', '\uFE0F']),
   ("woman_wearing_turban", ['👳'], ['\u200D', '♀', '\uFE0F']), ("woman_with_headscarf", ['🧕'], []),
   ("writing_hand", ['✍'], [])]

/-- The pictures by name. -/
def pictures : List (String × List Char) :=
  (symbols.map fun entry => (entry.1, [entry.2])) ++ composedPictures ++ flagPictures
    ++ tonedPictures.flatMap fun (name, before, after) => skinTones.map fun (tone, character) =>
      (name ++ "_" ++ tone ++ "_skin_tone", before ++ character :: after)

end Routebook.Terminal
