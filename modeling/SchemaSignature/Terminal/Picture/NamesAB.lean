/-!
Names of pictures that start with digits, signs and the letters a and b.
-/

namespace SchemaSignature.Terminal.Picture

/-- Pictures by name, for names that start with digits, signs and the letters a and b. -/
def namedAB : List (String × String) :=
  [("+1", "👍"), ("-1", "👎"), ("100", "💯"), ("1234", "🔢"), ("1st_place_medal", "🥇"),
   ("2nd_place_medal", "🥈"), ("3rd_place_medal", "🥉"), ("8ball", "🎱"), ("__1", "👎"), ("a", "🅰"),
   ("a_button_(blood_type)", "🅰"), ("ab", "🆎"), ("ab_button_(blood_type)", "🆎"), ("abacus", "🧮"),
   ("abc", "🔤"), ("abcd", "🔡"), ("accept", "🉑"), ("adhesive_bandage", "🩹"),
   ("admission_tickets", "🎟"), ("adult", "🧑"), ("adult_dark_skin_tone", "🧑🏿"),
   ("adult_light_skin_tone", "🧑🏻"), ("adult_medium-dark_skin_tone", "🧑🏾"),
   ("adult_medium-light_skin_tone", "🧑🏼"), ("adult_medium_skin_tone", "🧑🏽"),
   ("aerial_tramway", "🚡"), ("afghanistan", "🇦🇫"), ("airplane", "✈"), ("airplane_arrival", "🛬"),
   ("airplane_arriving", "🛬"), ("airplane_departure", "🛫"), ("alarm_clock", "⏰"),
   ("albania", "🇦🇱"), ("alembic", "⚗"), ("algeria", "🇩🇿"), ("alien", "👽"), ("alien_monster", "👾"),
   ("ambulance", "🚑"), ("american_football", "🏈"), ("american_samoa", "🇦🇸"), ("amphora", "🏺"),
   ("anchor", "⚓"), ("andorra", "🇦🇩"), ("angel", "👼"), ("anger", "💢"), ("anger_symbol", "💢"),
   ("angola", "🇦🇴"), ("angry", "😠"), ("angry_face", "😠"), ("angry_face_with_horns", "👿"),
   ("anguilla", "🇦🇮"), ("anguished", "😧"), ("anguished_face", "😧"), ("ant", "🐜"),
   ("antarctica", "🇦🇶"), ("antenna_bars", "📶"), ("antigua_&_barbuda", "🇦🇬"),
   ("anxious_face_with_sweat", "😰"), ("apple", "🍎"), ("aquarius", "♒"), ("argentina", "🇦🇷"),
   ("aries", "♈"), ("armenia", "🇦🇲"), ("arrow_backward", "◀"), ("arrow_double_down", "⏬"),
   ("arrow_double_up", "⏫"), ("arrow_down", "⬇"), ("arrow_down_small", "🔽"),
   ("arrow_forward", "▶"), ("arrow_heading_down", "⤵"), ("arrow_heading_up", "⤴"),
   ("arrow_left", "⬅"), ("arrow_lower_left", "↙"), ("arrow_lower_right", "↘"),
   ("arrow_right", "➡"), ("arrow_right_hook", "↪"), ("arrow_up", "⬆"), ("arrow_up_down", "↕"),
   ("arrow_up_small", "🔼"), ("arrow_upper_left", "↖"), ("arrow_upper_right", "↗"),
   ("arrows_clockwise", "🔃"), ("arrows_counterclockwise", "🔄"), ("art", "🎨"),
   ("articulated_lorry", "🚛"), ("artist_palette", "🎨"), ("aruba", "🇦🇼"),
   ("ascension_island", "🇦🇨"), ("astonished", "😲"), ("astonished_face", "😲"),
   ("athletic_shoe", "👟"), ("atm", "🏧"), ("atm_sign", "🏧"), ("atom_symbol", "⚛"),
   ("australia", "🇦🇺"), ("austria", "🇦🇹"), ("auto_rickshaw", "🛺"), ("automobile", "🚗"),
   ("avocado", "🥑"), ("axe", "🪓"), ("azerbaijan", "🇦🇿"), ("b", "🅱"),
   ("b_button_(blood_type)", "🅱"), ("baby", "👶"), ("baby_angel", "👼"),
   ("baby_angel_dark_skin_tone", "👼🏿"), ("baby_angel_light_skin_tone", "👼🏻"),
   ("baby_angel_medium-dark_skin_tone", "👼🏾"), ("baby_angel_medium-light_skin_tone", "👼🏼"),
   ("baby_angel_medium_skin_tone", "👼🏽"), ("baby_bottle", "🍼"), ("baby_chick", "🐤"),
   ("baby_dark_skin_tone", "👶🏿"), ("baby_light_skin_tone", "👶🏻"),
   ("baby_medium-dark_skin_tone", "👶🏾"), ("baby_medium-light_skin_tone", "👶🏼"),
   ("baby_medium_skin_tone", "👶🏽"), ("baby_symbol", "🚼"), ("back", "🔙"), ("back_arrow", "🔙"),
   ("backhand_index_pointing_down", "👇"), ("backhand_index_pointing_down_dark_skin_tone", "👇🏿"),
   ("backhand_index_pointing_down_light_skin_tone", "👇🏻"),
   ("backhand_index_pointing_down_medium-dark_skin_tone", "👇🏾"),
   ("backhand_index_pointing_down_medium-light_skin_tone", "👇🏼"),
   ("backhand_index_pointing_down_medium_skin_tone", "👇🏽"), ("backhand_index_pointing_left", "👈"),
   ("backhand_index_pointing_left_dark_skin_tone", "👈🏿"),
   ("backhand_index_pointing_left_light_skin_tone", "👈🏻"),
   ("backhand_index_pointing_left_medium-dark_skin_tone", "👈🏾"),
   ("backhand_index_pointing_left_medium-light_skin_tone", "👈🏼"),
   ("backhand_index_pointing_left_medium_skin_tone", "👈🏽"),
   ("backhand_index_pointing_right", "👉"), ("backhand_index_pointing_right_dark_skin_tone", "👉🏿"),
   ("backhand_index_pointing_right_light_skin_tone", "👉🏻"),
   ("backhand_index_pointing_right_medium-dark_skin_tone", "👉🏾"),
   ("backhand_index_pointing_right_medium-light_skin_tone", "👉🏼"),
   ("backhand_index_pointing_right_medium_skin_tone", "👉🏽"), ("backhand_index_pointing_up", "👆"),
   ("backhand_index_pointing_up_dark_skin_tone", "👆🏿"),
   ("backhand_index_pointing_up_light_skin_tone", "👆🏻"),
   ("backhand_index_pointing_up_medium-dark_skin_tone", "👆🏾"),
   ("backhand_index_pointing_up_medium-light_skin_tone", "👆🏼"),
   ("backhand_index_pointing_up_medium_skin_tone", "👆🏽"), ("bacon", "🥓"), ("badger", "🦡"),
   ("badminton", "🏸"), ("badminton_racquet_and_shuttlecock", "🏸"), ("bagel", "🥯"),
   ("baggage_claim", "🛄"), ("baguette_bread", "🥖"), ("bahamas", "🇧🇸"), ("bahrain", "🇧🇭"),
   ("balance_scale", "⚖"), ("bald", "🦲"), ("bald_man", "👨‍🦲"), ("bald_woman", "👩‍🦲"),
   ("ballet_shoes", "🩰"), ("balloon", "🎈"), ("ballot_box_with_ballot", "🗳"),
   ("ballot_box_with_check", "☑"), ("bamboo", "🎍"), ("banana", "🍌"), ("bangbang", "‼"),
   ("bangladesh", "🇧🇩"), ("banjo", "🪕"), ("bank", "🏦"), ("bar_chart", "📊"), ("barbados", "🇧🇧"),
   ("barber", "💈"), ("barber_pole", "💈"), ("baseball", "⚾"), ("basket", "🧺"), ("basketball", "🏀"),
   ("bat", "🦇"), ("bath", "🛀"), ("bathtub", "🛁"), ("battery", "🔋"), ("beach_with_umbrella", "🏖"),
   ("beaming_face_with_smiling_eyes", "😁"), ("bear", "🐻"), ("bear_face", "🐻"),
   ("bearded_person", "🧔"), ("bearded_person_dark_skin_tone", "🧔🏿"),
   ("bearded_person_light_skin_tone", "🧔🏻"), ("bearded_person_medium-dark_skin_tone", "🧔🏾"),
   ("bearded_person_medium-light_skin_tone", "🧔🏼"), ("bearded_person_medium_skin_tone", "🧔🏽"),
   ("beating_heart", "💓"), ("bed", "🛏"), ("bee", "🐝"), ("beer", "🍺"), ("beer_mug", "🍺"),
   ("beers", "🍻"), ("beetle", "🐞"), ("beginner", "🔰"), ("belarus", "🇧🇾"), ("belgium", "🇧🇪"),
   ("belize", "🇧🇿"), ("bell", "🔔"), ("bell_with_slash", "🔕"), ("bellhop_bell", "🛎"),
   ("benin", "🇧🇯"), ("bento", "🍱"), ("bento_box", "🍱"), ("bermuda", "🇧🇲"), ("beverage_box", "🧃"),
   ("bhutan", "🇧🇹"), ("bicycle", "🚲"), ("bicyclist", "🚴"), ("bike", "🚲"), ("bikini", "👙"),
   ("billed_cap", "🧢"), ("biohazard", "☣"), ("biohazard_sign", "☣"), ("bird", "🐦"),
   ("birthday", "🎂"), ("birthday_cake", "🎂"), ("black_circle", "⚫"),
   ("black_circle_for_record", "⏺"), ("black_flag", "🏴"), ("black_heart", "🖤"),
   ("black_joker", "🃏"), ("black_large_square", "⬛"),
   ("black_left__pointing_double_triangle_with_vertical_bar", "⏮"),
   ("black_medium-small_square", "◾"), ("black_medium_small_square", "◾"),
   ("black_medium_square", "◼"), ("black_nib", "✒"),
   ("black_right__pointing_double_triangle_with_vertical_bar", "⏭"),
   ("black_right__pointing_triangle_with_double_vertical_bar", "⏯"), ("black_small_square", "▪"),
   ("black_square_button", "🔲"), ("black_square_for_stop", "⏹"), ("blond-haired_man", "👱‍♂️"),
   ("blond-haired_man_dark_skin_tone", "👱🏿‍♂️"), ("blond-haired_man_light_skin_tone", "👱🏻‍♂️"),
   ("blond-haired_man_medium-dark_skin_tone", "👱🏾‍♂️"),
   ("blond-haired_man_medium-light_skin_tone", "👱🏼‍♂️"),
   ("blond-haired_man_medium_skin_tone", "👱🏽‍♂️"), ("blond-haired_person", "👱"),
   ("blond-haired_person_dark_skin_tone", "👱🏿"), ("blond-haired_person_light_skin_tone", "👱🏻"),
   ("blond-haired_person_medium-dark_skin_tone", "👱🏾"),
   ("blond-haired_person_medium-light_skin_tone", "👱🏼"),
   ("blond-haired_person_medium_skin_tone", "👱🏽"), ("blond-haired_woman", "👱‍♀️"),
   ("blond-haired_woman_dark_skin_tone", "👱🏿‍♀️"),
   ("blond-haired_woman_light_skin_tone", "👱🏻‍♀️"),
   ("blond-haired_woman_medium-dark_skin_tone", "👱🏾‍♀️"),
   ("blond-haired_woman_medium-light_skin_tone", "👱🏼‍♀️"),
   ("blond-haired_woman_medium_skin_tone", "👱🏽‍♀️"), ("blossom", "🌼"), ("blowfish", "🐡"),
   ("blue_book", "📘"), ("blue_car", "🚙"), ("blue_circle", "🔵"), ("blue_heart", "💙"),
   ("blue_square", "🟦"), ("blush", "😊"), ("boar", "🐗"), ("boat", "⛵"), ("bolivia", "🇧🇴"),
   ("bomb", "💣"), ("bone", "🦴"), ("book", "📖"), ("bookmark", "🔖"), ("bookmark_tabs", "📑"),
   ("books", "📚"), ("boom", "💥"), ("boot", "👢"), ("bosnia_&_herzegovina", "🇧🇦"),
   ("botswana", "🇧🇼"), ("bottle_with_popping_cork", "🍾"), ("bouquet", "💐"),
   ("bouvet_island", "🇧🇻"), ("bow", "🙇"), ("bow_and_arrow", "🏹"), ("bowl_with_spoon", "🥣"),
   ("bowling", "🎳"), ("boxing_glove", "🥊"), ("boy", "👦"), ("boy_dark_skin_tone", "👦🏿"),
   ("boy_light_skin_tone", "👦🏻"), ("boy_medium-dark_skin_tone", "👦🏾"),
   ("boy_medium-light_skin_tone", "👦🏼"), ("boy_medium_skin_tone", "👦🏽"), ("brain", "🧠"),
   ("brazil", "🇧🇷"), ("bread", "🍞"), ("breast-feeding", "🤱"),
   ("breast-feeding_dark_skin_tone", "🤱🏿"), ("breast-feeding_light_skin_tone", "🤱🏻"),
   ("breast-feeding_medium-dark_skin_tone", "🤱🏾"),
   ("breast-feeding_medium-light_skin_tone", "🤱🏼"), ("breast-feeding_medium_skin_tone", "🤱🏽"),
   ("brick", "🧱"), ("bride_with_veil", "👰"), ("bride_with_veil_dark_skin_tone", "👰🏿"),
   ("bride_with_veil_light_skin_tone", "👰🏻"), ("bride_with_veil_medium-dark_skin_tone", "👰🏾"),
   ("bride_with_veil_medium-light_skin_tone", "👰🏼"), ("bride_with_veil_medium_skin_tone", "👰🏽"),
   ("bridge_at_night", "🌉"), ("briefcase", "💼"), ("briefs", "🩲"), ("bright_button", "🔆"),
   ("british_indian_ocean_territory", "🇮🇴"), ("british_virgin_islands", "🇻🇬"), ("broccoli", "🥦"),
   ("broken_heart", "💔"), ("broom", "🧹"), ("brown_circle", "🟤"), ("brown_heart", "🤎"),
   ("brown_square", "🟫"), ("brunei", "🇧🇳"), ("bug", "🐛"), ("building_construction", "🏗"),
   ("bulb", "💡"), ("bulgaria", "🇧🇬"), ("bullet_train", "🚅"), ("bullettrain_front", "🚅"),
   ("bullettrain_side", "🚄"), ("burkina_faso", "🇧🇫"), ("burrito", "🌯"), ("burundi", "🇧🇮"),
   ("bus", "🚌"), ("bus_stop", "🚏"), ("busstop", "🚏"), ("bust_in_silhouette", "👤"),
   ("busts_in_silhouette", "👥"), ("butter", "🧈"), ("butterfly", "🦋")]

end SchemaSignature.Terminal.Picture
