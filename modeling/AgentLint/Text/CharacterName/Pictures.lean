import AgentLint.Text.CharacterName.Row

/-!
# Names of pictures

Pictures that stand in a text like characters.
-/

namespace AgentLint.Text

/-- Weather, plants, animals, food, things and faces. -/
def pictureNames : List NameRow :=
  [⟨0x1F300, "", ["CYCLONE|FOGGY|CLOSED UMBRELLA|NIGHT WITH STARS|SUNRISE OVER MOUNTAINS|SUNRISE",
     "CITYSCAPE AT DUSK|SUNSET OVER BUILDINGS|RAINBOW|BRIDGE AT NIGHT|WATER WAVE|VOLCANO|MILKY WAY"]⟩,
   ⟨0x1F30D, "EARTH GLOBE ", ["EUROPE-AFRICA|AMERICAS|ASIA-AUSTRALIA"]⟩,
   ⟨0x1F310, "", ["GLOBE WITH MERIDIANS|NEW MOON SYMBOL|WAXING CRESCENT MOON SYMBOL",
     "FIRST QUARTER MOON SYMBOL|WAXING GIBBOUS MOON SYMBOL|FULL MOON SYMBOL",
     "WANING GIBBOUS MOON SYMBOL|LAST QUARTER MOON SYMBOL|WANING CRESCENT MOON SYMBOL|CRESCENT MOON",
     "NEW MOON WITH FACE|FIRST QUARTER MOON WITH FACE|LAST QUARTER MOON WITH FACE",
     "FULL MOON WITH FACE|SUN WITH FACE|GLOWING STAR|SHOOTING STAR|THERMOMETER|BLACK DROPLET"]⟩,
   ⟨0x1F323, "WHITE ", ["SUN|SUN WITH SMALL CLOUD|SUN BEHIND CLOUD|SUN BEHIND CLOUD WITH RAIN"]⟩,
   ⟨0x1F327, "CLOUD WITH ", ["RAIN|SNOW|LIGHTNING|TORNADO"]⟩,
   ⟨0x1F32B, "", ["FOG|WIND BLOWING FACE|HOT DOG|TACO|BURRITO|CHESTNUT|SEEDLING|EVERGREEN TREE",
     "DECIDUOUS TREE|PALM TREE|CACTUS|HOT PEPPER|TULIP|CHERRY BLOSSOM|ROSE|HIBISCUS|SUNFLOWER",
     "BLOSSOM"]⟩,
   ⟨0x1F33D, "EAR OF ", ["MAIZE|RICE"]⟩,
   ⟨0x1F33F, "", ["HERB|FOUR LEAF CLOVER|MAPLE LEAF|FALLEN LEAF|LEAF FLUTTERING IN WIND|MUSHROOM",
     "TOMATO|AUBERGINE|GRAPES|MELON|WATERMELON|TANGERINE|LEMON|BANANA|PINEAPPLE|RED APPLE",
     "GREEN APPLE|PEAR|PEACH|CHERRIES|STRAWBERRY|HAMBURGER|SLICE OF PIZZA|MEAT ON BONE|POULTRY LEG"]⟩,
   ⟨0x1F358, "RICE ", ["CRACKER|BALL"]⟩,
   ⟨0x1F35A, "", ["COOKED RICE|CURRY AND RICE|STEAMING BOWL|SPAGHETTI|BREAD|FRENCH FRIES",
     "ROASTED SWEET POTATO|DANGO|ODEN|SUSHI|FRIED SHRIMP|FISH CAKE WITH SWIRL DESIGN|SOFT ICE CREAM",
     "SHAVED ICE|ICE CREAM|DOUGHNUT|COOKIE|CHOCOLATE BAR|CANDY|LOLLIPOP|CUSTARD|HONEY POT|SHORTCAKE",
     "BENTO BOX|POT OF FOOD|COOKING|FORK AND KNIFE|TEACUP WITHOUT HANDLE|SAKE BOTTLE AND CUP",
     "WINE GLASS|COCKTAIL GLASS|TROPICAL DRINK|BEER MUG|CLINKING BEER MUGS|BABY BOTTLE",
     "FORK AND KNIFE WITH PLATE|BOTTLE WITH POPPING CORK|POPCORN|RIBBON|WRAPPED PRESENT",
     "BIRTHDAY CAKE|JACK-O-LANTERN|CHRISTMAS TREE|FATHER CHRISTMAS|FIREWORKS|FIREWORK SPARKLER",
     "BALLOON|PARTY POPPER|CONFETTI BALL|TANABATA TREE|CROSSED FLAGS|PINE DECORATION|JAPANESE DOLLS",
     "CARP STREAMER|WIND CHIME|MOON VIEWING CEREMONY|SCHOOL SATCHEL|GRADUATION CAP",
     "HEART WITH TIP ON THE LEFT|BOUQUET OF FLOWERS|MILITARY MEDAL|REMINDER RIBBON",
     "MUSICAL KEYBOARD WITH JACKS|STUDIO MICROPHONE|LEVEL SLIDER|CONTROL KNOBS"]⟩,
   ⟨0x1F39C, "BEAMED ", ["ASCENDING MUSICAL NOTES|DESCENDING MUSICAL NOTES"]⟩,
   ⟨0x1F39E, "", ["FILM FRAMES|ADMISSION TICKETS|CAROUSEL HORSE|FERRIS WHEEL|ROLLER COASTER",
     "FISHING POLE AND FISH|MICROPHONE|MOVIE CAMERA|CINEMA|HEADPHONE|ARTIST PALETTE|TOP HAT",
     "CIRCUS TENT|TICKET|CLAPPER BOARD|PERFORMING ARTS|VIDEO GAME|DIRECT HIT|SLOT MACHINE|BILLIARDS",
     "GAME DIE|BOWLING|FLOWER PLAYING CARDS|MUSICAL NOTE|MULTIPLE MUSICAL NOTES|SAXOPHONE|GUITAR",
     "MUSICAL KEYBOARD|TRUMPET|VIOLIN|MUSICAL SCORE|RUNNING SHIRT WITH SASH|TENNIS RACQUET AND BALL",
     "SKI AND SKI BOOT|BASKETBALL AND HOOP|CHEQUERED FLAG|SNOWBOARDER|RUNNER|SURFER|SPORTS MEDAL",
     "TROPHY|HORSE RACING|AMERICAN FOOTBALL|RUGBY FOOTBALL|SWIMMER|WEIGHT LIFTER|GOLFER"]⟩,
   ⟨0x1F3CD, "RACING ", ["MOTORCYCLE|CAR"]⟩,
   ⟨0x1F3CF, "", ["CRICKET BAT AND BALL|VOLLEYBALL|FIELD HOCKEY STICK AND BALL",
     "ICE HOCKEY STICK AND PUCK|TABLE TENNIS PADDLE AND BALL|SNOW CAPPED MOUNTAIN|CAMPING",
     "BEACH WITH UMBRELLA|BUILDING CONSTRUCTION|HOUSE BUILDINGS|CITYSCAPE|DERELICT HOUSE BUILDING",
     "CLASSICAL BUILDING|DESERT|DESERT ISLAND|NATIONAL PARK|STADIUM"]⟩,
   ⟨0x1F3E0, "HOUSE ", ["BUILDING|WITH GARDEN"]⟩,
   ⟨0x1F3E2, "", ["OFFICE BUILDING|JAPANESE POST OFFICE|EUROPEAN POST OFFICE|HOSPITAL|BANK",
     "AUTOMATED TELLER MACHINE|HOTEL|LOVE HOTEL|CONVENIENCE STORE|SCHOOL|DEPARTMENT STORE|FACTORY",
     "IZAKAYA LANTERN|JAPANESE CASTLE|EUROPEAN CASTLE|WHITE PENNANT|BLACK PENNANT"]⟩,
   ⟨0x1F3F3, "WAVING ", ["WHITE FLAG|BLACK FLAG"]⟩,
   ⟨0x1F3F5, "", ["ROSETTE|BLACK ROSETTE|LABEL|BADMINTON RACQUET AND SHUTTLECOCK|BOW AND ARROW",
     "AMPHORA"]⟩,
   ⟨0x1F3FB, "EMOJI MODIFIER FITZPATRICK ", ["TYPE-1-2|TYPE-3|TYPE-4|TYPE-5|TYPE-6"]⟩,
   ⟨0x1F400, "", ["RAT|MOUSE|OX|WATER BUFFALO|COW|TIGER|LEOPARD|RABBIT|CAT|DRAGON|CROCODILE|WHALE",
     "SNAIL|SNAKE|HORSE|RAM|GOAT|SHEEP|MONKEY|ROOSTER|CHICKEN|DOG|PIG|BOAR|ELEPHANT|OCTOPUS",
     "SPIRAL SHELL|BUG|ANT|HONEYBEE|LADY BEETLE|FISH|TROPICAL FISH|BLOWFISH|TURTLE|HATCHING CHICK",
     "BABY CHICK|FRONT-FACING BABY CHICK|BIRD|PENGUIN|KOALA|POODLE|DROMEDARY CAMEL|BACTRIAN CAMEL",
     "DOLPHIN|MOUSE FACE|COW FACE|TIGER FACE|RABBIT FACE|CAT FACE|DRAGON FACE|SPOUTING WHALE",
     "HORSE FACE|MONKEY FACE|DOG FACE|PIG FACE|FROG FACE|HAMSTER FACE|WOLF FACE|BEAR FACE|PANDA FACE",
     "PIG NOSE|PAW PRINTS|CHIPMUNK|EYES|EYE|EAR|NOSE|MOUTH|TONGUE"]⟩,
   ⟨0x1F446, "WHITE ", ["UP POINTING BACKHAND INDEX|DOWN POINTING BACKHAND INDEX",
     "LEFT POINTING BACKHAND INDEX|RIGHT POINTING BACKHAND INDEX"]⟩,
   ⟨0x1F44A, "", ["FISTED HAND SIGN|WAVING HAND SIGN|OK HAND SIGN"]⟩,
   ⟨0x1F44D, "THUMBS ", ["UP SIGN|DOWN SIGN"]⟩,
   ⟨0x1F44F, "", ["CLAPPING HANDS SIGN|OPEN HANDS SIGN|CROWN|WOMANS HAT|EYEGLASSES|NECKTIE|T-SHIRT",
     "JEANS|DRESS|KIMONO|BIKINI|WOMANS CLOTHES|PURSE|HANDBAG|POUCH|MANS SHOE|ATHLETIC SHOE",
     "HIGH-HEELED SHOE"]⟩,
   ⟨0x1F461, "WOMANS ", ["SANDAL|BOOTS"]⟩,
   ⟨0x1F463, "", ["FOOTPRINTS|BUST IN SILHOUETTE|BUSTS IN SILHOUETTE|BOY|GIRL|MAN|WOMAN|FAMILY",
     "MAN AND WOMAN HOLDING HANDS"]⟩,
   ⟨0x1F46C, "TWO ", ["MEN HOLDING HANDS|WOMEN HOLDING HANDS"]⟩,
   ⟨0x1F46E, "", ["POLICE OFFICER|WOMAN WITH BUNNY EARS|BRIDE WITH VEIL|PERSON WITH BLOND HAIR"]⟩,
   ⟨0x1F472, "MAN WITH ", ["GUA PI MAO|TURBAN"]⟩,
   ⟨0x1F474, "OLDER ", ["MAN|WOMAN"]⟩,
   ⟨0x1F476, "", ["BABY|CONSTRUCTION WORKER|PRINCESS"]⟩,
   ⟨0x1F479, "JAPANESE ", ["OGRE|GOBLIN"]⟩,
   ⟨0x1F47B, "", ["GHOST|BABY ANGEL|EXTRATERRESTRIAL ALIEN|ALIEN MONSTER|IMP|SKULL",
     "INFORMATION DESK PERSON|GUARDSMAN|DANCER|LIPSTICK|NAIL POLISH|FACE MASSAGE|HAIRCUT|BARBER POLE",
     "SYRINGE|PILL|KISS MARK|LOVE LETTER|RING|GEM STONE|KISS|BOUQUET|COUPLE WITH HEART|WEDDING",
     "BEATING HEART|BROKEN HEART|TWO HEARTS|SPARKLING HEART|GROWING HEART|HEART WITH ARROW",
     "BLUE HEART|GREEN HEART|YELLOW HEART|PURPLE HEART|HEART WITH RIBBON|REVOLVING HEARTS",
     "HEART DECORATION|DIAMOND SHAPE WITH A DOT INSIDE|ELECTRIC LIGHT BULB|ANGER SYMBOL|BOMB",
     "SLEEPING SYMBOL|COLLISION SYMBOL|SPLASHING SWEAT SYMBOL|DROPLET|DASH SYMBOL|PILE OF POO",
     "FLEXED BICEPS|DIZZY SYMBOL|SPEECH BALLOON|THOUGHT BALLOON|WHITE FLOWER|HUNDRED POINTS SYMBOL",
     "MONEY BAG|CURRENCY EXCHANGE|HEAVY DOLLAR SIGN|CREDIT CARD"]⟩,
   ⟨0x1F4B4, "BANKNOTE WITH ", ["YEN SIGN|DOLLAR SIGN|EURO SIGN|POUND SIGN"]⟩,
   ⟨0x1F4B8, "", ["MONEY WITH WINGS|CHART WITH UPWARDS TREND AND YEN SIGN|SEAT|PERSONAL COMPUTER",
     "BRIEFCASE|MINIDISC|FLOPPY DISK|OPTICAL DISC|DVD|FILE FOLDER|OPEN FILE FOLDER"]⟩,
   ⟨0x1F4C3, "PAGE ", ["WITH CURL|FACING UP"]⟩,
   ⟨0x1F4C5, "", ["CALENDAR|TEAR-OFF CALENDAR|CARD INDEX"]⟩,
   ⟨0x1F4C8, "CHART WITH ", ["UPWARDS TREND|DOWNWARDS TREND"]⟩,
   ⟨0x1F4CA, "", ["BAR CHART|CLIPBOARD|PUSHPIN|ROUND PUSHPIN|PAPERCLIP|STRAIGHT RULER",
     "TRIANGULAR RULER|BOOKMARK TABS|LEDGER|NOTEBOOK|NOTEBOOK WITH DECORATIVE COVER|CLOSED BOOK",
     "OPEN BOOK|GREEN BOOK|BLUE BOOK|ORANGE BOOK|BOOKS|NAME BADGE|SCROLL|MEMO|TELEPHONE RECEIVER",
     "PAGER|FAX MACHINE|SATELLITE ANTENNA|PUBLIC ADDRESS LOUDSPEAKER|CHEERING MEGAPHONE|OUTBOX TRAY",
     "INBOX TRAY|PACKAGE|E-MAIL SYMBOL|INCOMING ENVELOPE|ENVELOPE WITH DOWNWARDS ARROW ABOVE"]⟩,
   ⟨0x1F4EA, "CLOSED MAILBOX WITH ", ["LOWERED FLAG|RAISED FLAG"]⟩,
   ⟨0x1F4EC, "OPEN MAILBOX WITH ", ["RAISED FLAG|LOWERED FLAG"]⟩,
   ⟨0x1F4EE, "", ["POSTBOX|POSTAL HORN|NEWSPAPER"]⟩,
   ⟨0x1F4F1, "MOBILE ", ["PHONE|PHONE WITH RIGHTWARDS ARROW AT LEFT"]⟩,
   ⟨0x1F4F3, "", ["VIBRATION MODE|MOBILE PHONE OFF|NO MOBILE PHONES|ANTENNA WITH BARS|CAMERA",
     "CAMERA WITH FLASH|VIDEO CAMERA|TELEVISION|RADIO|VIDEOCASSETTE|FILM PROJECTOR|PORTABLE STEREO",
     "PRAYER BEADS|TWISTED RIGHTWARDS ARROWS"]⟩,
   ⟨0x1F501, "CLOCKWISE RIGHTWARDS AND LEFTWARDS OPEN CIRCLE ", ["ARROWS",
     "ARROWS WITH CIRCLED ONE OVERLAY"]⟩,
   ⟨0x1F503, "", ["CLOCKWISE DOWNWARDS AND UPWARDS OPEN CIRCLE ARROWS",
     "ANTICLOCKWISE DOWNWARDS AND UPWARDS OPEN CIRCLE ARROWS|LOW BRIGHTNESS SYMBOL",
     "HIGH BRIGHTNESS SYMBOL|SPEAKER WITH CANCELLATION STROKE|SPEAKER"]⟩,
   ⟨0x1F509, "SPEAKER WITH ", ["ONE SOUND WAVE|THREE SOUND WAVES"]⟩,
   ⟨0x1F50B, "", ["BATTERY|ELECTRIC PLUG|LEFT-POINTING MAGNIFYING GLASS",
     "RIGHT-POINTING MAGNIFYING GLASS|LOCK WITH INK PEN|CLOSED LOCK WITH KEY|KEY|LOCK|OPEN LOCK|BELL",
     "BELL WITH CANCELLATION STROKE|BOOKMARK|LINK SYMBOL|RADIO BUTTON",
     "BACK WITH LEFTWARDS ARROW ABOVE|END WITH LEFTWARDS ARROW ABOVE",
     "ON WITH EXCLAMATION MARK WITH LEFT RIGHT ARROW ABOVE|SOON WITH RIGHTWARDS ARROW ABOVE",
     "TOP WITH UPWARDS ARROW ABOVE|NO ONE UNDER EIGHTEEN SYMBOL|KEYCAP TEN"]⟩,
   ⟨0x1F520, "INPUT SYMBOL FOR ", ["LATIN CAPITAL LETTERS|LATIN SMALL LETTERS|NUMBERS|SYMBOLS",
     "LATIN LETTERS"]⟩,
   ⟨0x1F525, "", ["FIRE|ELECTRIC TORCH|WRENCH|HAMMER|NUT AND BOLT|HOCHO|PISTOL|MICROSCOPE|TELESCOPE",
     "CRYSTAL BALL|SIX POINTED STAR WITH MIDDLE DOT|JAPANESE SYMBOL FOR BEGINNER|TRIDENT EMBLEM",
     "BLACK SQUARE BUTTON|WHITE SQUARE BUTTON"]⟩,
   ⟨0x1F534, "LARGE ", ["RED CIRCLE|BLUE CIRCLE|ORANGE DIAMOND|BLUE DIAMOND"]⟩,
   ⟨0x1F538, "SMALL ", ["ORANGE DIAMOND|BLUE DIAMOND"]⟩,
   ⟨0x1F53A, "", ["UP-POINTING RED TRIANGLE|DOWN-POINTING RED TRIANGLE",
     "UP-POINTING SMALL RED TRIANGLE|DOWN-POINTING SMALL RED TRIANGLE",
     "LOWER RIGHT SHADOWED WHITE CIRCLE|UPPER RIGHT SHADOWED WHITE CIRCLE|CIRCLED CROSS POMMEE"]⟩,
   ⟨0x1F541, "CROSS ", ["POMMEE WITH HALF-CIRCLE BELOW|POMMEE"]⟩,
   ⟨0x1F543, "NOTCHED ", ["LEFT SEMICIRCLE WITH THREE DOTS|RIGHT SEMICIRCLE WITH THREE DOTS"]⟩,
   ⟨0x1F545, "", ["SYMBOL FOR MARKS CHAPTER|WHITE LATIN CROSS|HEAVY LATIN CROSS|CELTIC CROSS",
     "OM SYMBOL|DOVE OF PEACE|KAABA|MOSQUE|SYNAGOGUE|MENORAH WITH NINE BRANCHES|BOWL OF HYGIEIA"]⟩,
   ⟨0x1F550, "CLOCK FACE ", ["ONE OCLOCK|TWO OCLOCK|THREE OCLOCK|FOUR OCLOCK|FIVE OCLOCK|SIX OCLOCK",
     "SEVEN OCLOCK|EIGHT OCLOCK|NINE OCLOCK|TEN OCLOCK|ELEVEN OCLOCK|TWELVE OCLOCK|ONE-THIRTY",
     "TWO-THIRTY|THREE-THIRTY|FOUR-THIRTY|FIVE-THIRTY|SIX-THIRTY|SEVEN-THIRTY|EIGHT-THIRTY",
     "NINE-THIRTY|TEN-THIRTY|ELEVEN-THIRTY|TWELVE-THIRTY"]⟩,
   ⟨0x1F568, "RIGHT ", ["SPEAKER|SPEAKER WITH ONE SOUND WAVE|SPEAKER WITH THREE SOUND WAVES"]⟩,
   ⟨0x1F56B, "", ["BULLHORN|BULLHORN WITH SOUND WAVES|RINGING BELL|BOOK|CANDLE|MANTELPIECE CLOCK",
     "BLACK SKULL AND CROSSBONES|NO PIRACY|HOLE|MAN IN BUSINESS SUIT LEVITATING|SLEUTH OR SPY",
     "DARK SUNGLASSES|SPIDER|SPIDER WEB|JOYSTICK|MAN DANCING|LEFT HAND TELEPHONE RECEIVER",
     "TELEPHONE RECEIVER WITH PAGE|RIGHT HAND TELEPHONE RECEIVER|WHITE TOUCHTONE TELEPHONE",
     "BLACK TOUCHTONE TELEPHONE|TELEPHONE ON TOP OF MODEM|CLAMSHELL MOBILE PHONE|BACK OF ENVELOPE",
     "STAMPED ENVELOPE|ENVELOPE WITH LIGHTNING|FLYING ENVELOPE|PEN OVER STAMPED ENVELOPE",
     "LINKED PAPERCLIPS|BLACK PUSHPIN"]⟩,
   ⟨0x1F589, "LOWER LEFT ", ["PENCIL|BALLPOINT PEN|FOUNTAIN PEN|PAINTBRUSH|CRAYON"]⟩,
   ⟨0x1F58E, "", ["LEFT WRITING HAND|TURNED OK HAND SIGN|RAISED HAND WITH FINGERS SPLAYED"]⟩,
   ⟨0x1F591, "REVERSED ", ["RAISED HAND WITH FINGERS SPLAYED|THUMBS UP SIGN|THUMBS DOWN SIGN",
     "VICTORY HAND|HAND WITH MIDDLE FINGER EXTENDED"]⟩,
   ⟨0x1F596, "", ["RAISED HAND WITH PART BETWEEN MIDDLE AND RING FINGERS",
     "WHITE DOWN POINTING LEFT HAND INDEX"]⟩,
   ⟨0x1F598, "SIDEWAYS ", ["WHITE LEFT POINTING INDEX|WHITE RIGHT POINTING INDEX",
     "BLACK LEFT POINTING INDEX|BLACK RIGHT POINTING INDEX"]⟩,
   ⟨0x1F59C, "BLACK ", ["LEFT POINTING BACKHAND INDEX|RIGHT POINTING BACKHAND INDEX"]⟩,
   ⟨0x1F59E, "SIDEWAYS ", ["WHITE UP POINTING INDEX|WHITE DOWN POINTING INDEX",
     "BLACK UP POINTING INDEX|BLACK DOWN POINTING INDEX"]⟩,
   ⟨0x1F5A2, "BLACK ", ["UP POINTING BACKHAND INDEX|DOWN POINTING BACKHAND INDEX|HEART"]⟩,
   ⟨0x1F5A5, "", ["DESKTOP COMPUTER|KEYBOARD AND MOUSE|THREE NETWORKED COMPUTERS|PRINTER",
     "POCKET CALCULATOR|BLACK HARD SHELL FLOPPY DISK|WHITE HARD SHELL FLOPPY DISK",
     "SOFT SHELL FLOPPY DISK|TAPE CARTRIDGE|WIRED KEYBOARD|ONE BUTTON MOUSE|TWO BUTTON MOUSE",
     "THREE BUTTON MOUSE|TRACKBALL|OLD PERSONAL COMPUTER|HARD DISK|SCREEN|PRINTER ICON|FAX ICON",
     "OPTICAL DISC ICON"]⟩,
   ⟨0x1F5B9, "DOCUMENT WITH ", ["TEXT|TEXT AND PICTURE|PICTURE"]⟩,
   ⟨0x1F5BC, "FRAME WITH ", ["PICTURE|TILES|AN X"]⟩,
   ⟨0x1F5BF, "", ["BLACK FOLDER|FOLDER|OPEN FOLDER"]⟩,
   ⟨0x1F5C2, "CARD ", ["INDEX DIVIDERS|FILE BOX"]⟩,
   ⟨0x1F5C4, "", ["FILE CABINET"]⟩,
   ⟨0x1F5C5, "EMPTY ", ["NOTE|NOTE PAGE|NOTE PAD"]⟩,
   ⟨0x1F5C8, "", ["NOTE"]⟩,
   ⟨0x1F5C9, "NOTE ", ["PAGE|PAD"]⟩,
   ⟨0x1F5CB, "EMPTY ", ["DOCUMENT|PAGE|PAGES"]⟩,
   ⟨0x1F5CE, "", ["DOCUMENT|PAGE|PAGES|WASTEBASKET"]⟩,
   ⟨0x1F5D2, "SPIRAL ", ["NOTE PAD|CALENDAR PAD"]⟩,
   ⟨0x1F5D4, "", ["DESKTOP WINDOW|MINIMIZE|MAXIMIZE|OVERLAP",
     "CLOCKWISE RIGHT AND LEFT SEMICIRCLE ARROWS|CANCELLATION X|INCREASE FONT SIZE SYMBOL",
     "DECREASE FONT SIZE SYMBOL|COMPRESSION|OLD KEY|ROLLED-UP NEWSPAPER|PAGE WITH CIRCLED TEXT",
     "STOCK CHART|DAGGER KNIFE|LIPS|SPEAKING HEAD IN SILHOUETTE"]⟩,
   ⟨0x1F5E4, "THREE RAYS ", ["ABOVE|BELOW|LEFT|RIGHT"]⟩,
   ⟨0x1F5E8, "", ["LEFT SPEECH BUBBLE|RIGHT SPEECH BUBBLE|TWO SPEECH BUBBLES|THREE SPEECH BUBBLES",
     "LEFT THOUGHT BUBBLE|RIGHT THOUGHT BUBBLE|LEFT ANGER BUBBLE|RIGHT ANGER BUBBLE|MOOD BUBBLE"]⟩,
   ⟨0x1F5F1, "LIGHTNING ", ["MOOD BUBBLE|MOOD"]⟩,
   ⟨0x1F5F3, "BALLOT ", ["BOX WITH BALLOT|SCRIPT X|BOX WITH SCRIPT X|BOLD SCRIPT X",
     "BOX WITH BOLD SCRIPT X"]⟩,
   ⟨0x1F5F8, "", ["LIGHT CHECK MARK|BALLOT BOX WITH BOLD CHECK|WORLD MAP|MOUNT FUJI|TOKYO TOWER",
     "STATUE OF LIBERTY|SILHOUETTE OF JAPAN|MOYAI"]⟩,
   ⟨0x1F600, "GRINNING ", ["FACE|FACE WITH SMILING EYES"]⟩,
   ⟨0x1F602, "", ["FACE WITH TEARS OF JOY"]⟩,
   ⟨0x1F603, "SMILING FACE WITH ", ["OPEN MOUTH|OPEN MOUTH AND SMILING EYES",
     "OPEN MOUTH AND COLD SWEAT|OPEN MOUTH AND TIGHTLY-CLOSED EYES|HALO|HORNS"]⟩,
   ⟨0x1F609, "", ["WINKING FACE|SMILING FACE WITH SMILING EYES|FACE SAVOURING DELICIOUS FOOD",
     "RELIEVED FACE"]⟩,
   ⟨0x1F60D, "SMILING FACE WITH ", ["HEART-SHAPED EYES|SUNGLASSES"]⟩,
   ⟨0x1F60F, "", ["SMIRKING FACE|NEUTRAL FACE|EXPRESSIONLESS FACE|UNAMUSED FACE|FACE WITH COLD SWEAT",
     "PENSIVE FACE|CONFUSED FACE|CONFOUNDED FACE|KISSING FACE|FACE THROWING A KISS"]⟩,
   ⟨0x1F619, "KISSING FACE WITH ", ["SMILING EYES|CLOSED EYES"]⟩,
   ⟨0x1F61B, "FACE WITH STUCK-OUT ", ["TONGUE|TONGUE AND WINKING EYE",
     "TONGUE AND TIGHTLY-CLOSED EYES"]⟩,
   ⟨0x1F61E, "", ["DISAPPOINTED FACE|WORRIED FACE|ANGRY FACE|POUTING FACE|CRYING FACE",
     "PERSEVERING FACE|FACE WITH LOOK OF TRIUMPH|DISAPPOINTED BUT RELIEVED FACE",
     "FROWNING FACE WITH OPEN MOUTH|ANGUISHED FACE|FEARFUL FACE|WEARY FACE|SLEEPY FACE|TIRED FACE",
     "GRIMACING FACE|LOUDLY CRYING FACE|FACE WITH OPEN MOUTH|HUSHED FACE"]⟩,
   ⟨0x1F630, "FACE ", ["WITH OPEN MOUTH AND COLD SWEAT|SCREAMING IN FEAR"]⟩,
   ⟨0x1F632, "", ["ASTONISHED FACE|FLUSHED FACE|SLEEPING FACE|DIZZY FACE"]⟩,
   ⟨0x1F636, "FACE ", ["WITHOUT MOUTH|WITH MEDICAL MASK"]⟩,
   ⟨0x1F638, "", ["GRINNING CAT FACE WITH SMILING EYES|CAT FACE WITH TEARS OF JOY"]⟩,
   ⟨0x1F63A, "SMILING CAT FACE WITH ", ["OPEN MOUTH|HEART-SHAPED EYES"]⟩,
   ⟨0x1F63C, "", ["CAT FACE WITH WRY SMILE|KISSING CAT FACE WITH CLOSED EYES|POUTING CAT FACE",
     "CRYING CAT FACE|WEARY CAT FACE"]⟩,
   ⟨0x1F641, "SLIGHTLY ", ["FROWNING FACE|SMILING FACE"]⟩,
   ⟨0x1F643, "", ["UPSIDE-DOWN FACE"]⟩,
   ⟨0x1F644, "FACE WITH ", ["ROLLING EYES|NO GOOD GESTURE|OK GESTURE"]⟩,
   ⟨0x1F647, "", ["PERSON BOWING DEEPLY|SEE-NO-EVIL MONKEY|HEAR-NO-EVIL MONKEY|SPEAK-NO-EVIL MONKEY",
     "HAPPY PERSON RAISING ONE HAND"]⟩,
   ⟨0x1F64C, "PERSON ", ["RAISING BOTH HANDS IN CELEBRATION|FROWNING|WITH POUTING FACE",
     "WITH FOLDED HANDS"]⟩]

/-- Transport, and more faces, things and people. -/
def transportNames : List NameRow :=
  [⟨0x1F680, "", ["ROCKET|HELICOPTER|STEAM LOCOMOTIVE|RAILWAY CAR"]⟩,
   ⟨0x1F684, "HIGH-SPEED ", ["TRAIN|TRAIN WITH BULLET NOSE"]⟩,
   ⟨0x1F686, "", ["TRAIN|METRO|LIGHT RAIL|STATION|TRAM|TRAM CAR|BUS|ONCOMING BUS|TROLLEYBUS|BUS STOP",
     "MINIBUS|AMBULANCE|FIRE ENGINE|POLICE CAR|ONCOMING POLICE CAR|TAXI|ONCOMING TAXI|AUTOMOBILE",
     "ONCOMING AUTOMOBILE|RECREATIONAL VEHICLE|DELIVERY TRUCK|ARTICULATED LORRY|TRACTOR|MONORAIL",
     "MOUNTAIN RAILWAY|SUSPENSION RAILWAY|MOUNTAIN CABLEWAY|AERIAL TRAMWAY|SHIP|ROWBOAT|SPEEDBOAT",
     "HORIZONTAL TRAFFIC LIGHT|VERTICAL TRAFFIC LIGHT|CONSTRUCTION SIGN|POLICE CARS REVOLVING LIGHT",
     "TRIANGULAR FLAG ON POST|DOOR|NO ENTRY SIGN|SMOKING SYMBOL|NO SMOKING SYMBOL",
     "PUT LITTER IN ITS PLACE SYMBOL|DO NOT LITTER SYMBOL|POTABLE WATER SYMBOL",
     "NON-POTABLE WATER SYMBOL|BICYCLE|NO BICYCLES|BICYCLIST|MOUNTAIN BICYCLIST|PEDESTRIAN",
     "NO PEDESTRIANS|CHILDREN CROSSING|MENS SYMBOL|WOMENS SYMBOL|RESTROOM|BABY SYMBOL|TOILET",
     "WATER CLOSET|SHOWER|BATH|BATHTUB|PASSPORT CONTROL|CUSTOMS|BAGGAGE CLAIM|LEFT LUGGAGE",
     "TRIANGLE WITH ROUNDED CORNERS|PROHIBITED SIGN|CIRCLED INFORMATION SOURCE|BOYS SYMBOL",
     "GIRLS SYMBOL|COUCH AND LAMP|SLEEPING ACCOMMODATION|SHOPPING BAGS|BELLHOP BELL|BED",
     "PLACE OF WORSHIP|OCTAGONAL SIGN|SHOPPING TROLLEY|STUPA|PAGODA|HINDU TEMPLE|HUT|ELEVATOR"]⟩,
   ⟨0x1F6DD, "", ["PLAYGROUND SLIDE|WHEEL|RING BUOY|HAMMER AND WRENCH|SHIELD|OIL DRUM|MOTORWAY",
     "RAILWAY TRACK|MOTOR BOAT"]⟩,
   ⟨0x1F6E6, "UP-POINTING ", ["MILITARY AIRPLANE|AIRPLANE|SMALL AIRPLANE"]⟩,
   ⟨0x1F6E9, "", ["SMALL AIRPLANE|NORTHEAST-POINTING AIRPLANE"]⟩,
   ⟨0x1F6EB, "AIRPLANE ", ["DEPARTURE|ARRIVING"]⟩,
   ⟨0x1F6F0, "", ["SATELLITE|ONCOMING FIRE ENGINE|DIESEL LOCOMOTIVE|PASSENGER SHIP|SCOOTER",
     "MOTOR SCOOTER|CANOE|SLED|FLYING SAUCER|SKATEBOARD|AUTO RICKSHAW|PICKUP TRUCK|ROLLER SKATE"]⟩,
   ⟨0x1F900, "CIRCLED CROSS ", ["FORMEE WITH FOUR DOTS|FORMEE WITH TWO DOTS|FORMEE"]⟩,
   ⟨0x1F903, "LEFT HALF CIRCLE WITH ", ["FOUR DOTS|THREE DOTS|TWO DOTS|DOT"]⟩,
   ⟨0x1F907, "", ["LEFT HALF CIRCLE"]⟩,
   ⟨0x1F908, "DOWNWARD FACING ", ["HOOK|NOTCHED HOOK|HOOK WITH DOT|NOTCHED HOOK WITH DOT"]⟩,
   ⟨0x1F90C, "", ["PINCHED FINGERS|WHITE HEART|BROWN HEART|PINCHING HAND|ZIPPER-MOUTH FACE",
     "MONEY-MOUTH FACE|FACE WITH THERMOMETER|NERD FACE|THINKING FACE|FACE WITH HEAD-BANDAGE",
     "ROBOT FACE|HUGGING FACE|SIGN OF THE HORNS|CALL ME HAND|RAISED BACK OF HAND|LEFT-FACING FIST",
     "RIGHT-FACING FIST|HANDSHAKE|HAND WITH INDEX AND MIDDLE FINGERS CROSSED|I LOVE YOU HAND SIGN",
     "FACE WITH COWBOY HAT|CLOWN FACE|NAUSEATED FACE|ROLLING ON THE FLOOR LAUGHING|DROOLING FACE",
     "LYING FACE|FACE PALM|SNEEZING FACE|FACE WITH ONE EYEBROW RAISED"]⟩,
   ⟨0x1F929, "GRINNING FACE WITH ", ["STAR EYES|ONE LARGE AND ONE SMALL EYE"]⟩,
   ⟨0x1F92B, "", ["FACE WITH FINGER COVERING CLOSED LIPS|SERIOUS FACE WITH SYMBOLS COVERING MOUTH",
     "SMILING FACE WITH SMILING EYES AND HAND COVERING MOUTH|FACE WITH OPEN MOUTH VOMITING",
     "SHOCKED FACE WITH EXPLODING HEAD|PREGNANT WOMAN|BREAST-FEEDING|PALMS UP TOGETHER|SELFIE|PRINCE",
     "MAN IN TUXEDO|MOTHER CHRISTMAS|SHRUG|PERSON DOING CARTWHEEL|JUGGLING|FENCER|MODERN PENTATHLON",
     "WRESTLERS|WATER POLO|HANDBALL|DIVING MASK|WILTED FLOWER|DRUM WITH DRUMSTICKS|CLINKING GLASSES",
     "TUMBLER GLASS|SPOON|GOAL NET|RIFLE|FIRST PLACE MEDAL|SECOND PLACE MEDAL|THIRD PLACE MEDAL",
     "BOXING GLOVE|MARTIAL ARTS UNIFORM|CURLING STONE|LACROSSE STICK AND BALL|SOFTBALL|FLYING DISC",
     "CROISSANT|AVOCADO|CUCUMBER|BACON|POTATO|CARROT|BAGUETTE BREAD|GREEN SALAD|SHALLOW PAN OF FOOD",
     "STUFFED FLATBREAD|EGG|GLASS OF MILK|PEANUTS|KIWIFRUIT|PANCAKES|DUMPLING|FORTUNE COOKIE",
     "TAKEOUT BOX|CHOPSTICKS|BOWL WITH SPOON|CUP WITH STRAW|COCONUT|BROCCOLI|PIE|PRETZEL|CUT OF MEAT",
     "SANDWICH|CANNED FOOD|LEAFY GREEN|MANGO|MOON CAKE|BAGEL",
     "SMILING FACE WITH SMILING EYES AND THREE HEARTS|YAWNING FACE|SMILING FACE WITH TEAR"]⟩,
   ⟨0x1F973, "FACE WITH ", ["PARTY HORN AND PARTY HAT|UNEVEN EYES AND WAVY MOUTH"]⟩,
   ⟨0x1F975, "", ["OVERHEATED FACE|FREEZING FACE|NINJA|DISGUISED FACE"]⟩,
   ⟨0x1F979, "FACE ", ["HOLDING BACK TEARS|WITH PLEADING EYES"]⟩,
   ⟨0x1F97B, "", ["SARI|LAB COAT|GOGGLES|HIKING BOOT|FLAT SHOE|CRAB|LION FACE|SCORPION|TURKEY",
     "UNICORN FACE|EAGLE|DUCK|BAT|SHARK|OWL|FOX FACE|BUTTERFLY|DEER|GORILLA|LIZARD|RHINOCEROS|SHRIMP",
     "SQUID|GIRAFFE FACE|ZEBRA FACE|HEDGEHOG|SAUROPOD|T-REX|CRICKET|KANGAROO|LLAMA|PEACOCK",
     "HIPPOPOTAMUS|PARROT|RACCOON|LOBSTER|MOSQUITO|MICROBE|BADGER|SWAN|MAMMOTH|DODO|SLOTH|OTTER",
     "ORANGUTAN|SKUNK|FLAMINGO|OYSTER|BEAVER|BISON|SEAL|GUIDE DOG|PROBING CANE"]⟩,
   ⟨0x1F9B0, "EMOJI COMPONENT ", ["RED HAIR|CURLY HAIR|BALD|WHITE HAIR"]⟩,
   ⟨0x1F9B4, "", ["BONE|LEG|FOOT|TOOTH|SUPERHERO|SUPERVILLAIN|SAFETY VEST|EAR WITH HEARING AID",
     "MOTORIZED WHEELCHAIR|MANUAL WHEELCHAIR"]⟩,
   ⟨0x1F9BE, "MECHANICAL ", ["ARM|LEG"]⟩,
   ⟨0x1F9C0, "", ["CHEESE WEDGE|CUPCAKE|SALT SHAKER|BEVERAGE BOX|GARLIC|ONION|FALAFEL|WAFFLE|BUTTER",
     "MATE DRINK|ICE CUBE|BUBBLE TEA|TROLL|STANDING PERSON|KNEELING PERSON|DEAF PERSON",
     "FACE WITH MONOCLE|ADULT|CHILD|OLDER ADULT|BEARDED PERSON"]⟩,
   ⟨0x1F9D5, "PERSON ", ["WITH HEADSCARF|IN STEAMY ROOM|CLIMBING|IN LOTUS POSITION"]⟩,
   ⟨0x1F9D9, "", ["MAGE|FAIRY|VAMPIRE|MERPERSON|ELF|GENIE|ZOMBIE|BRAIN|ORANGE HEART|BILLED CAP|SCARF",
     "GLOVES|COAT|SOCKS|RED GIFT ENVELOPE|FIRECRACKER|JIGSAW PUZZLE PIECE|TEST TUBE|PETRI DISH",
     "DNA DOUBLE HELIX|COMPASS|ABACUS|FIRE EXTINGUISHER|TOOLBOX|BRICK|MAGNET|LUGGAGE|LOTION BOTTLE",
     "SPOOL OF THREAD|BALL OF YARN|SAFETY PIN|TEDDY BEAR|BROOM|BASKET|ROLL OF PAPER|BAR OF SOAP",
     "SPONGE|RECEIPT|NAZAR AMULET"]⟩]

end AgentLint.Text
