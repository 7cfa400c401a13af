/-!
Names of pictures that start with the letters c to e.
-/

namespace SchemaSignature.Terminal.Picture

/-- Pictures by name, for names that start with the letters c to e. -/
def namedCE : List (String × String) :=
  [("cactus", "🌵"), ("cake", "🍰"), ("calendar", "📆"), ("call_me_hand", "🤙"),
   ("call_me_hand_dark_skin_tone", "🤙🏿"), ("call_me_hand_light_skin_tone", "🤙🏻"),
   ("call_me_hand_medium-dark_skin_tone", "🤙🏾"), ("call_me_hand_medium-light_skin_tone", "🤙🏼"),
   ("call_me_hand_medium_skin_tone", "🤙🏽"), ("calling", "📲"), ("cambodia", "🇰🇭"), ("camel", "🐫"),
   ("camera", "📷"), ("camera_with_flash", "📸"), ("cameroon", "🇨🇲"), ("camping", "🏕"),
   ("canada", "🇨🇦"), ("canary_islands", "🇮🇨"), ("cancer", "♋"), ("candle", "🕯"), ("candy", "🍬"),
   ("canned_food", "🥫"), ("canoe", "🛶"), ("cape_verde", "🇨🇻"), ("capital_abcd", "🔠"),
   ("capricorn", "♑"), ("car", "🚗"), ("card_file_box", "🗃"), ("card_index", "📇"),
   ("card_index_dividers", "🗂"), ("caribbean_netherlands", "🇧🇶"), ("carousel_horse", "🎠"),
   ("carp_streamer", "🎏"), ("carrot", "🥕"), ("castle", "🏰"), ("cat", "🐱"), ("cat2", "🐈"),
   ("cat_face", "🐱"), ("cat_face_with_tears_of_joy", "😹"), ("cat_face_with_wry_smile", "😼"),
   ("cayman_islands", "🇰🇾"), ("cd", "💿"), ("central_african_republic", "🇨🇫"),
   ("ceuta_&_melilla", "🇪🇦"), ("chad", "🇹🇩"), ("chains", "⛓"), ("chair", "🪑"), ("chart", "💹"),
   ("chart_decreasing", "📉"), ("chart_increasing", "📈"), ("chart_increasing_with_yen", "💹"),
   ("chart_with_downwards_trend", "📉"), ("chart_with_upwards_trend", "📈"),
   ("checkered_flag", "🏁"), ("cheese_wedge", "🧀"), ("chequered_flag", "🏁"), ("cherries", "🍒"),
   ("cherry_blossom", "🌸"), ("chess_pawn", "♟"), ("chestnut", "🌰"), ("chicken", "🐔"),
   ("child", "🧒"), ("child_dark_skin_tone", "🧒🏿"), ("child_light_skin_tone", "🧒🏻"),
   ("child_medium-dark_skin_tone", "🧒🏾"), ("child_medium-light_skin_tone", "🧒🏼"),
   ("child_medium_skin_tone", "🧒🏽"), ("children_crossing", "🚸"), ("chile", "🇨🇱"), ("china", "🇨🇳"),
   ("chipmunk", "🐿"), ("chocolate_bar", "🍫"), ("chopsticks", "🥢"), ("christmas_island", "🇨🇽"),
   ("christmas_tree", "🎄"), ("church", "⛪"), ("cigarette", "🚬"), ("cinema", "🎦"),
   ("circled_m", "Ⓜ"), ("circus_tent", "🎪"), ("city_sunrise", "🌇"), ("city_sunset", "🌆"),
   ("cityscape", "🏙"), ("cityscape_at_dusk", "🌆"), ("cl", "🆑"), ("cl_button", "🆑"),
   ("clamp", "🗜"), ("clap", "👏"), ("clapper", "🎬"), ("clapper_board", "🎬"),
   ("clapping_hands", "👏"), ("clapping_hands_dark_skin_tone", "👏🏿"),
   ("clapping_hands_light_skin_tone", "👏🏻"), ("clapping_hands_medium-dark_skin_tone", "👏🏾"),
   ("clapping_hands_medium-light_skin_tone", "👏🏼"), ("clapping_hands_medium_skin_tone", "👏🏽"),
   ("classical_building", "🏛"), ("clinking_beer_mugs", "🍻"), ("clinking_glasses", "🥂"),
   ("clipboard", "📋"), ("clipperton_island", "🇨🇵"), ("clock1", "🕐"), ("clock10", "🕙"),
   ("clock1030", "🕥"), ("clock11", "🕚"), ("clock1130", "🕦"), ("clock12", "🕛"), ("clock1230", "🕧"),
   ("clock130", "🕜"), ("clock2", "🕑"), ("clock230", "🕝"), ("clock3", "🕒"), ("clock330", "🕞"),
   ("clock4", "🕓"), ("clock430", "🕟"), ("clock5", "🕔"), ("clock530", "🕠"), ("clock6", "🕕"),
   ("clock630", "🕡"), ("clock7", "🕖"), ("clock730", "🕢"), ("clock8", "🕗"), ("clock830", "🕣"),
   ("clock9", "🕘"), ("clock930", "🕤"), ("clockwise_vertical_arrows", "🔃"), ("closed_book", "📕"),
   ("closed_lock_with_key", "🔐"), ("closed_mailbox_with_lowered_flag", "📪"),
   ("closed_mailbox_with_raised_flag", "📫"), ("closed_umbrella", "🌂"), ("cloud", "☁"),
   ("cloud_with_lightning", "🌩"), ("cloud_with_lightning_and_rain", "⛈"),
   ("cloud_with_rain", "🌧"), ("cloud_with_snow", "🌨"), ("cloud_with_tornado", "🌪"),
   ("clown_face", "🤡"), ("club_suit", "♣"), ("clubs", "♣"), ("clutch_bag", "👝"), ("coat", "🧥"),
   ("cocktail", "🍸"), ("cocktail_glass", "🍸"), ("coconut", "🥥"),
   ("cocos_(keeling)_islands", "🇨🇨"), ("coffee", "☕"), ("coffin", "⚰"), ("cold_face", "🥶"),
   ("cold_sweat", "😰"), ("collision", "💥"), ("colombia", "🇨🇴"), ("comet", "☄"), ("comoros", "🇰🇲"),
   ("compass", "🧭"), ("compression", "🗜"), ("computer", "💻"), ("computer_disk", "💽"),
   ("computer_mouse", "🖱"), ("confetti_ball", "🎊"), ("confounded", "😖"), ("confounded_face", "😖"),
   ("confused", "😕"), ("confused_face", "😕"), ("congo_-_brazzaville", "🇨🇬"),
   ("congo_-_kinshasa", "🇨🇩"), ("congratulations", "㊗"), ("construction", "🚧"),
   ("construction_worker", "👷"), ("construction_worker_dark_skin_tone", "👷🏿"),
   ("construction_worker_light_skin_tone", "👷🏻"),
   ("construction_worker_medium-dark_skin_tone", "👷🏾"),
   ("construction_worker_medium-light_skin_tone", "👷🏼"),
   ("construction_worker_medium_skin_tone", "👷🏽"), ("control_knobs", "🎛"),
   ("convenience_store", "🏪"), ("cook_islands", "🇨🇰"), ("cooked_rice", "🍚"), ("cookie", "🍪"),
   ("cooking", "🍳"), ("cool", "🆒"), ("cool_button", "🆒"), ("cop", "👮"), ("copyright", "©"),
   ("corn", "🌽"), ("costa_rica", "🇨🇷"), ("couch_and_lamp", "🛋"),
   ("counterclockwise_arrows_button", "🔄"), ("couple", "👫"), ("couple_with_heart", "💑"),
   ("couple_with_heart_man_man", "👨‍❤️‍👨"), ("couple_with_heart_woman_man", "👩‍❤️‍👨"),
   ("couple_with_heart_woman_woman", "👩‍❤️‍👩"), ("couplekiss", "💏"), ("cow", "🐮"), ("cow2", "🐄"),
   ("cow_face", "🐮"), ("cowboy_hat_face", "🤠"), ("crab", "🦀"), ("crayon", "🖍"),
   ("credit_card", "💳"), ("crescent_moon", "🌙"), ("cricket", "🦗"), ("cricket_bat_and_ball", "🏏"),
   ("cricket_game", "🏏"), ("croatia", "🇭🇷"), ("crocodile", "🐊"), ("croissant", "🥐"),
   ("cross_mark", "❌"), ("cross_mark_button", "❎"), ("crossed_fingers", "🤞"),
   ("crossed_fingers_dark_skin_tone", "🤞🏿"), ("crossed_fingers_light_skin_tone", "🤞🏻"),
   ("crossed_fingers_medium-dark_skin_tone", "🤞🏾"),
   ("crossed_fingers_medium-light_skin_tone", "🤞🏼"), ("crossed_fingers_medium_skin_tone", "🤞🏽"),
   ("crossed_flags", "🎌"), ("crossed_swords", "⚔"), ("crown", "👑"), ("cry", "😢"),
   ("crying_cat_face", "😿"), ("crying_face", "😢"), ("crystal_ball", "🔮"), ("cuba", "🇨🇺"),
   ("cucumber", "🥒"), ("cup_with_straw", "🥤"), ("cupcake", "🧁"), ("cupid", "💘"),
   ("curaçao", "🇨🇼"), ("curling_stone", "🥌"), ("curly-haired_man", "👨‍🦱"),
   ("curly-haired_woman", "👩‍🦱"), ("curly_hair", "🦱"), ("curly_loop", "➰"),
   ("currency_exchange", "💱"), ("curry", "🍛"), ("curry_rice", "🍛"), ("custard", "🍮"),
   ("customs", "🛃"), ("cut_of_meat", "🥩"), ("cyclone", "🌀"), ("cyprus", "🇨🇾"), ("czechia", "🇨🇿"),
   ("côte_d’ivoire", "🇨🇮"), ("dagger", "🗡"), ("dagger_knife", "🗡"), ("dancer", "💃"),
   ("dancers", "👯"), ("dango", "🍡"), ("dark_skin_tone", "🏿"), ("dark_sunglasses", "🕶"),
   ("dart", "🎯"), ("dash", "💨"), ("dashing_away", "💨"), ("date", "📅"), ("deaf_person", "🧏"),
   ("deciduous_tree", "🌳"), ("deer", "🦌"), ("delivery_truck", "🚚"), ("denmark", "🇩🇰"),
   ("department_store", "🏬"), ("derelict_house", "🏚"), ("derelict_house_building", "🏚"),
   ("desert", "🏜"), ("desert_island", "🏝"), ("desktop_computer", "🖥"), ("detective", "🕵"),
   ("detective_dark_skin_tone", "🕵🏿"), ("detective_light_skin_tone", "🕵🏻"),
   ("detective_medium-dark_skin_tone", "🕵🏾"), ("detective_medium-light_skin_tone", "🕵🏼"),
   ("detective_medium_skin_tone", "🕵🏽"), ("diamond_shape_with_a_dot_inside", "💠"),
   ("diamond_suit", "♦"), ("diamond_with_a_dot", "💠"), ("diamonds", "♦"), ("diego_garcia", "🇩🇬"),
   ("dim_button", "🔅"), ("direct_hit", "🎯"), ("disappointed", "😞"), ("disappointed_face", "😞"),
   ("disappointed_relieved", "😥"), ("diving_mask", "🤿"), ("diya_lamp", "🪔"), ("dizzy", "💫"),
   ("dizzy_face", "😵"), ("djibouti", "🇩🇯"), ("dna", "🧬"), ("do_not_litter", "🚯"), ("dog", "🐶"),
   ("dog2", "🐕"), ("dog_face", "🐶"), ("dollar", "💵"), ("dollar_banknote", "💵"), ("dolls", "🎎"),
   ("dolphin", "🐬"), ("dominica", "🇩🇲"), ("dominican_republic", "🇩🇴"), ("door", "🚪"),
   ("dotted_six-pointed_star", "🔯"), ("double_curly_loop", "➿"), ("double_exclamation_mark", "‼"),
   ("double_vertical_bar", "⏸"), ("doughnut", "🍩"), ("dove", "🕊"), ("dove_of_peace", "🕊"),
   ("down-left_arrow", "↙"), ("down-right_arrow", "↘"), ("down_arrow", "⬇"),
   ("downcast_face_with_sweat", "😓"), ("downwards_button", "🔽"), ("dragon", "🐉"),
   ("dragon_face", "🐲"), ("dress", "👗"), ("dromedary_camel", "🐪"), ("drooling_face", "🤤"),
   ("drop_of_blood", "🩸"), ("droplet", "💧"), ("drum", "🥁"), ("duck", "🦆"), ("dumpling", "🥟"),
   ("dvd", "📀"), ("e-mail", "📧"), ("e__mail", "📧"), ("eagle", "🦅"), ("ear", "👂"),
   ("ear_dark_skin_tone", "👂🏿"), ("ear_light_skin_tone", "👂🏻"),
   ("ear_medium-dark_skin_tone", "👂🏾"), ("ear_medium-light_skin_tone", "👂🏼"),
   ("ear_medium_skin_tone", "👂🏽"), ("ear_of_corn", "🌽"), ("ear_of_rice", "🌾"),
   ("ear_with_hearing_aid", "🦻"), ("earth_africa", "🌍"), ("earth_americas", "🌎"),
   ("earth_asia", "🌏"), ("ecuador", "🇪🇨"), ("egg", "🍳"), ("eggplant", "🍆"), ("egypt", "🇪🇬"),
   ("eight", "8️⃣"), ("eight-pointed_star", "✴"), ("eight-spoked_asterisk", "✳"),
   ("eight-thirty", "🕣"), ("eight_o’clock", "🕗"), ("eight_pointed_black_star", "✴"),
   ("eight_spoked_asterisk", "✳"), ("eject_button", "⏏"), ("eject_symbol", "⏏"),
   ("el_salvador", "🇸🇻"), ("electric_plug", "🔌"), ("elephant", "🐘"), ("eleven-thirty", "🕦"),
   ("eleven_o’clock", "🕚"), ("elf", "🧝"), ("elf_dark_skin_tone", "🧝🏿"),
   ("elf_light_skin_tone", "🧝🏻"), ("elf_medium-dark_skin_tone", "🧝🏾"),
   ("elf_medium-light_skin_tone", "🧝🏼"), ("elf_medium_skin_tone", "🧝🏽"), ("email", "✉"),
   ("emoji_modifier_fitzpatrick_type__1__2", "🏻"), ("emoji_modifier_fitzpatrick_type__3", "🏼"),
   ("emoji_modifier_fitzpatrick_type__4", "🏽"), ("emoji_modifier_fitzpatrick_type__5", "🏾"),
   ("emoji_modifier_fitzpatrick_type__6", "🏿"), ("end", "🔚"), ("end_arrow", "🔚"),
   ("england", "🏴󠁧󠁢󠁥󠁮󠁧󠁿"), ("envelope", "✉"), ("envelope_with_arrow", "📩"),
   ("equatorial_guinea", "🇬🇶"), ("eritrea", "🇪🇷"), ("estonia", "🇪🇪"), ("ethiopia", "🇪🇹"),
   ("euro", "💶"), ("euro_banknote", "💶"), ("european_castle", "🏰"), ("european_post_office", "🏤"),
   ("european_union", "🇪🇺"), ("evergreen_tree", "🌲"), ("ewe", "🐑"), ("exclamation", "❗"),
   ("exclamation_mark", "❗"), ("exclamation_question_mark", "⁉"), ("exploding_head", "🤯"),
   ("expressionless", "😑"), ("expressionless_face", "😑"), ("eye", "👁"),
   ("eye_in_speech_bubble", "👁️‍🗨️"), ("eyeglasses", "👓"), ("eyes", "👀")]

end SchemaSignature.Terminal.Picture
