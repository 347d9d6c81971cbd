/-!
# Names of characters

The names of characters (character database, version 14.0), among them all further names that the
database gives to single characters. Those that end in a code or a number are left out.

A row stands for all names that are made of one of the beginnings before its equals sign, which have
commas between, and of one of the last words behind it. `nameRows` holds the rows in groups by their
first letters.
-/

namespace GosuForge.Text

def oneWordRows : List String :=
  ["=ABACUS ACCORDION ACK ACKNOWLEDGE ADMETOS ADULT AIRPLANE AKTIESELSKAB ALEMBIC ALERT ALM",
   "=AMBULANCE AMPERSAND AMPHORA ANCHOR ANGLE ANKH ANT APC APOLLON APOSTROPHE AQUARIUS ARC ARIES",
   "=ASSERTION ASTERISK ASTERISM ASTRAEA AUBERGINE AUTOMOBILE AVOCADO AXE BABY BACKSPACE BACON",
   "=BADGER BAGEL BALLOON BANANA BANJO BANK BASEBALL BASKET BAT BATH BATHTUB BATTERY BEANS",
   "=BEAVER BECAUSE BED BEETLE BEL BELL BETWEEN BICYCLE BICYCLIST BIKINI BILLIARDS BIRD BISON",
   "=BLOSSOM BLOWFISH BLUEBERRIES BOAR BOM BOMB BONE BOOK BOOKMARK BOOKS BOOMERANG BOUQUET",
   "=BOWLING BOWTIE BOY BPH BRAIN BREAD BREAST-FEEDING BREVE BRICK BRIEFCASE BRIEFS BROCCOLI",
   "=BROOM BS BUBBLES BUCKET BUG BULLET BULLHORN BULLSEYE BURRITO BUS BUTTER BUTTERFLY CACTUS",
   "=CADUCEUS CALENDAR CAMERA CAMPING CAN CANCEL CANCER CANDLE CANDY CANOE CAPITULUM CAPRICORN",
   "=CARET CARON CARROT CASTLE CAT CCH CEDILLA CERES CGJ CHAINS CHAIR CHERRIES CHESTNUT CHICKEN",
   "=CHILD CHIPMUNK CHIRON CHOPSTICKS CHURCH CINEMA CITYSCAPE CLIPBOARD CLOUD COAT COCKROACH",
   "=COCONUT COFFIN COIN COLON COMET COMMA COMPASS COMPLEMENT COMPRESSION CONJUNCTION COOKIE",
   "=COOKING CORAL COUNTERBORE COUNTERSINK COW CR CRAB CRICKET CROCODILE CROISSANT CROWN CRUTCH",
   "=CSI CUCUMBER CUPCAKE CUPIDO CUSTARD CUSTOMS CYCLONE CYLINDRICITY DAGGER DANCER DANGO DC1",
   "=DC2 DC3 DC4 DCS DEER DEL DELETE DESERT DIAERESIS DIVIDES DLE DOCUMENT DODO DOG DOLPHIN DOOR",
   "=DOUGHNUT DRAGON DRESS DROPLET DUCK DUMPLING DVD EAGLE EAR EARTH EGG ELEPHANT ELEVATOR ELF",
   "=ENQ ENQUIRY ENVELOPE EOL EOM EOT EPA ESA ESC ESCAPE ESTIMATES ETB ETX EXCESS EYE EYEGLASSES",
   "=EYES FACTORY FAIRY FALAFEL FAMILY FEATHER FENCER FERRY FF FIRE FIRECRACKER FIREWORKS FISH",
   "=FISHEYE FLAMINGO FLATBREAD FLATNESS FLEUR-DE-LIS FLOWER FLY FOG FOGGY FOLDER FONDUE FOOT",
   "=FOOTPRINTS FORCES FORKING FOUNTAIN FROWN FS FSI FUSE FVS1 FVS2 FVS3 FVS4 GARLIC GEAR GEMINI",
   "=GENIE GHOST GIRL GLOVES GOAT GOGGLES GOLFER GORILLA GRAPES GS GUARDSMAN GUITAR HADES",
   "=HAIRCUT HAMBURGER HAMMER HAMSA HANDBAG HANDBALL HANDSHAKE HEADPHONE HEADSTONE HEDGEHOG",
   "=HELICOPTER HERB HIBISCUS HIPPOPOTAMUS HOCHO HOLE HOMOTHETIC HONEYBEE HOOK HOP HORSE",
   "=HOSPITAL HOTEL HOURGLASS HOUSE HT HTJ HTS HUT HYGIEA HYPHEN HYPHEN-MINUS HYPODIASTOLE IMP",
   "=INCREMENT IND INDEX INFINITY INTEGRAL INTERCALATE INTERROBANG INTERSECTION JACK-O-LANTERN",
   "=JAR JEANS JOIN JOYSTICK JUGGLING JUNO JUPITER KAABA KANGAROO KEY KEYBOARD KIMONO KISS KITE",
   "=KIWIFRUIT KNOT KOALA KRONOS LABEL LADDER LEDGER LEG LEMON LEO LEOPARD LF LIBRA LIGHTNING",
   "=LIPS LIPSTICK LIZARD LLAMA LOBSTER LOCK LOLLIPOP LOTUS LOZENGE LRE LRI LRM LRO LUGGAGE",
   "=LUNGS MACRON MAGE MAGNET MAMMOTH MAN MANGO MAXIMIZE MELON MEMO MERCURY MERPERSON METRO",
   "=MICROBE MICROPHONE MICROSCOPE MINIBUS MINIDISC MINIMIZE MINY MIRROR MMSP MODELS MONKEY",
   "=MONORAIL MOSQUE MOSQUITO MOTORWAY MOUNTAIN MOUSE MOUTH MOYAI MULTIMAP MULTISET MUSHROOM MVS",
   "=MW NABLA NAK NAND NBH NBSP NECKTIE NEL NEPTUNE NESSUS NEUTER NEWSPAPER NINJA NL NNBSP",
   "=NONFORKING NOR NOSE NOTE NOTEBOOK NUL NULL OCTOPUS ODEN OGONEK OLIVE ONION OPHIUCHUS",
   "=OPPOSITION ORANGUTAN OSC OTTER OVERLAP OVERLINE OWL OX OYSTER PACKAGE PAD PAGE PAGER PAGES",
   "=PAGODA PALLAS PANCAKES PAPERCLIP PARACHUTE PARAGRAPHOS PARROT PDF PDI PEACH PEACOCK PEANUTS",
   "=PEAR PEDESTRIAN PENCIL PENGUIN PENTAGRAM PERPENDICULAR PERSPECTIVE PHOLUS PICK PIE PIG PILL",
   "=PINATA PINEAPPLE PISCES PISTOL PITCHFORK PLACARD PLD PLU PLUNGER PLUTO PM POODLE POPCORN",
   "=POSEIDON POSTBOX POTATO POUCH PRECEDES PRETZEL PRIME PRINCE PRINCESS PRINTER PROJECTIVE",
   "=PROPORTION PROSERPINA PU1 PU2 PURSE PUSHPIN QUINCUNX RABBIT RACCOON RADIO RAIN RAINBOW RAM",
   "=RAT RATIO RAZOR RECEIPT RESPONSE RESTROOM RHINOCEROS RI RIBBON RIFLE RING RLE RLI RLM RLO",
   "=ROCK ROCKET ROOSTER ROSE ROSETTE ROWBOAT RS RULE-DELAYED RUNNER SAGITTARIUS SAILBOAT",
   "=SALTIRE SANDWICH SARI SATELLITE SATURN SAUROPOD SAXOPHONE SCALES SCARF SCHOOL SCI SCOOTER",
   "=SCORPION SCORPIUS SCREEN SCREWDRIVER SCROLL SCRUPLE SEAL SEAT SECTOR SEDNA SEEDLING SEGMENT",
   "=SELFIE SEMICOLON SEMISEXTILE SESQUIQUADRATE SEXTILE SGC SHAMROCK SHARK SHEEP SHIELD SHIP",
   "=SHORTCAKE SHORTS SHOWER SHRIMP SHRUG SHY SI SINGLE-SHIFT-2 SINGLE-SHIFT-3 SKATEBOARD SKIER",
   "=SKULL SKUNK SLED SLOPE SLOTH SMILE SNAIL SNAKE SNOWBOARDER SNOWFLAKE SNOWMAN SO SOCKS",
   "=SOFTBALL SOH SOLIDUS SOS SP SPA SPACE SPAGHETTI SPARKLE SPARKLES SPEAKER SPEEDBOAT SPIDER",
   "=SPONGE SPOON SQUID SS2 SS3 SSA ST STADIUM STATION STETHOSCOPE STOPWATCH STRAIGHTNESS",
   "=STRAWBERRY STS STUPA STX SUB SUBSTITUTE SUCCEEDS SUN SUNFLOWER SUNRISE SUPERHERO",
   "=SUPERVILLAIN SURFER SUSHI SWAN SWIMMER SYMMETRY SYN SYNAGOGUE SYRINGE T-REX T-SHIRT TAB",
   "=TACO TAMALE TANGERINE TAURUS TAXI TEAPOT TELESCOPE TELEVISION TENT THEREFORE THERMODYNAMIC",
   "=THERMOMETER THUNDERSTORM TICKET TIGER TILDE TINY TOILET TOMATO TONGUE TOOLBOX TOOTH",
   "=TOOTHBRUSH TRACKBALL TRACTOR TRAIN TRAM TRANSPLUTO TRICOLON TROLL TROLLEYBUS TROPHY TRUE",
   "=TRUMPET TULIP TURKEY TURTLE UMBRELLA UNDERTIE UNION URANUS US VAMPIRE VERSICLE VESTA",
   "=VIDEOCASSETTE VIOLIN VIRGO VOLCANO VOLLEYBALL VS1 VS10 VS100 VS101 VS102 VS103 VS104 VS105",
   "=VS106 VS107 VS108 VS109 VS11 VS110 VS111 VS112 VS113 VS114 VS115 VS116 VS117 VS118 VS119",
   "=VS12 VS120 VS121 VS122 VS123 VS124 VS125 VS126 VS127 VS128 VS129 VS13 VS130 VS131 VS132",
   "=VS133 VS134 VS135 VS136 VS137 VS138 VS139 VS14 VS140 VS141 VS142 VS143 VS144 VS145 VS146",
   "=VS147 VS148 VS149 VS15 VS150 VS151 VS152 VS153 VS154 VS155 VS156 VS157 VS158 VS159 VS16",
   "=VS160 VS161 VS162 VS163 VS164 VS165 VS166 VS167 VS168 VS169 VS17 VS170 VS171 VS172 VS173",
   "=VS174 VS175 VS176 VS177 VS178 VS179 VS18 VS180 VS181 VS182 VS183 VS184 VS185 VS186 VS187",
   "=VS188 VS189 VS19 VS190 VS191 VS192 VS193 VS194 VS195 VS196 VS197 VS198 VS199 VS2 VS20 VS200",
   "=VS201 VS202 VS203 VS204 VS205 VS206 VS207 VS208 VS209 VS21 VS210 VS211 VS212 VS213 VS214",
   "=VS215 VS216 VS217 VS218 VS219 VS22 VS220 VS221 VS222 VS223 VS224 VS225 VS226 VS227 VS228",
   "=VS229 VS23 VS230 VS231 VS232 VS233 VS234 VS235 VS236 VS237 VS238 VS239 VS24 VS240 VS241",
   "=VS242 VS243 VS244 VS245 VS246 VS247 VS248 VS249 VS25 VS250 VS251 VS252 VS253 VS254 VS255",
   "=VS256 VS26 VS27 VS28 VS29 VS3 VS30 VS31 VS32 VS33 VS34 VS35 VS36 VS37 VS38 VS39 VS4 VS40",
   "=VS41 VS42 VS43 VS44 VS45 VS46 VS47 VS48 VS49 VS5 VS50 VS51 VS52 VS53 VS54 VS55 VS56 VS57",
   "=VS58 VS59 VS6 VS60 VS61 VS62 VS63 VS64 VS65 VS66 VS67 VS68 VS69 VS7 VS70 VS71 VS72 VS73",
   "=VS74 VS75 VS76 VS77 VS78 VS79 VS8 VS80 VS81 VS82 VS83 VS84 VS85 VS86 VS87 VS88 VS89 VS9",
   "=VS90 VS91 VS92 VS93 VS94 VS95 VS96 VS97 VS98 VS99 VT VTS VULCANUS WAFFLE WASTEBASKET WATCH",
   "=WATERMELON WEDDING WHALE WHEEL WINDOW WJ WOMAN WOOD WORM WRENCH WRESTLERS X-RAY XOR YO-YO",
   "=ZEUS ZOMBIE ZWJ ZWNBSP ZWNJ ZWSP"]

def rowsFromA : List String :=
  ["AC=CURRENT",
   "ACCOUNT,APPROXIMATELY EQUAL TO OR THE IMAGE,CARE,ELEMENT,IMAGE,NORMAL SUBGROUP=OF",
   "ACTIVATE ARABIC FORM,INHIBIT ARABIC FORM=SHAPING",
   "ACTIVATE SYMMETRIC,INHIBIT SYMMETRIC=SWAPPING",
   "ACUTE=ACCENT ANGLE",
   "ADDRESSED TO THE=SUBJECT",
   "ADHESIVE=BANDAGE",
   "ADI=SHAKTI",
   "ADLAM ALIF,ADLAM VOWEL,NYIAKENG PUACHUE HMONG SYLLABLE=LENGTHENER",
   "ADLAM CAPITAL LETTER,ADLAM SMALL LETTER=ALIF BA BHE CHI DAALI DHA E FA GA GBE HA I JIIM KAF",
   "ADLAM CAPITAL LETTER,ADLAM SMALL LETTER=KHA KPO LAAM MIIM NHA NUN NYA O PE QAAF RA SHA",
   "ADLAM CAPITAL LETTER,ADLAM SMALL LETTER=SINNYIIYHE TU U VA WAW YA YHE ZAL",
   "ADLAM CONSONANT,ADLAM GEMINATE CONSONANT=MODIFIER",
   "ADLAM DIGIT,AHOM DIGIT,ARABIC-INDIC DIGIT,BALINESE DIGIT,BENGALI DIGIT=EIGHT FIVE FOUR NINE",
   "ADLAM DIGIT,AHOM DIGIT,ARABIC-INDIC DIGIT,BALINESE DIGIT,BENGALI DIGIT=ONE SEVEN SIX THREE",
   "ADLAM DIGIT,AHOM DIGIT,ARABIC-INDIC DIGIT,BALINESE DIGIT,BENGALI DIGIT=TWO ZERO",
   "ADLAM GEMINATION,ADLAM INITIAL EXCLAMATION,ADLAM INITIAL QUESTION=MARK",
   "ADLAM NASALIZATION,AEGEAN CHECK,ANATOLIAN HIEROGLYPH A410 BEGIN LOGOGRAM=MARK",
   "ADLAM=HAMZA NUKTA",
   "ADMISSION=TICKETS",
   "AEGEAN DRY MEASURE FIRST,AEGEAN LIQUID MEASURE FIRST,AEGEAN MEASURE SECOND=SUBUNIT",
   "AEGEAN MEASURE THIRD,AEGEAN WEIGHT FIRST,AEGEAN WEIGHT FOURTH=SUBUNIT",
   "AEGEAN NUMBER EIGHT,AEGEAN NUMBER FIVE,AEGEAN NUMBER FOUR=HUNDRED THOUSAND",
   "AEGEAN NUMBER EIGHTY,AEGEAN NUMBER FIFTY,AEGEAN NUMBER FORTY=THOUSAND",
   "AEGEAN NUMBER NINE,AEGEAN NUMBER ONE,AEGEAN NUMBER SEVEN,AEGEAN NUMBER SIX=HUNDRED THOUSAND",
   "AEGEAN NUMBER NINETY,AEGEAN NUMBER SEVENTY,AEGEAN NUMBER SIXTY=THOUSAND",
   "AEGEAN NUMBER TEN,AEGEAN NUMBER THIRTY,AEGEAN NUMBER TWENTY=THOUSAND",
   "AEGEAN NUMBER THREE,AEGEAN NUMBER TWO,BRAHMI NUMBER ONE=HUNDRED THOUSAND",
   "AEGEAN NUMBER,BHAIKSUKI NUMBER,OTTOMAN SIYAQ NUMBER=EIGHT EIGHTY FIFTY FIVE FORTY FOUR NINE",
   "AEGEAN NUMBER,BHAIKSUKI NUMBER,OTTOMAN SIYAQ NUMBER=NINETY ONE SEVEN SEVENTY SIX SIXTY TEN",
   "AEGEAN NUMBER,BHAIKSUKI NUMBER,OTTOMAN SIYAQ NUMBER=THIRTY THREE TWENTY TWO",
   "AEGEAN WEIGHT BASE=UNIT",
   "AEGEAN WEIGHT SECOND,AEGEAN WEIGHT THIRD=SUBUNIT",
   "AEGEAN WORD SEPARATOR=DOT LINE",
   "AERIAL=TRAMWAY",
   "AFGHANI,ANGSTROM,ARABIC NUMBER,ARABIC PERCENT,ARABIC POETIC VERSE=SIGN",
   "AHOM CONSONANT SIGN MEDIAL LIGATING,CUNEIFORM SIGN GA2 TIMES BAR PLUS=RA",
   "AHOM CONSONANT SIGN MEDIAL,TAI THAM CONSONANT SIGN MEDIAL=LA RA",
   "AHOM LETTER ALTERNATE=BA GA TA",
   "AHOM LETTER=A BA BHA CA CHA DA DDA DDHA DHA GA GHA HA JA JHA KA KHA LA LLA MA NA NGA NNA NYA",
   "AHOM LETTER=PA PHA RA SA TA THA TTA TTHA",
   "AHOM NUMBER,KHAROSHTHI NUMBER=TEN TWENTY",
   "AHOM SIGN SMALL,BUGINESE END OF,MAKASAR END OF,MYANMAR SIGN LITTLE=SECTION",
   "AHOM SIGN=KILLER RULAI SECTION",
   "AHOM SYMBOL,MENDE KIKAKUI SYLLABLE M182=VI",
   "AHOM VOWEL SIGN=A AA AI AM AW E I II O U UU",
   "AIRPLANE=ARRIVING DEPARTURE",
   "ALARM,MANTELPIECE,TIMER=CLOCK",
   "ALCHEMICAL SYMBOL FOR ANTIMONY,ALCHEMICAL SYMBOL FOR BISMUTH=ORE",
   "ALCHEMICAL SYMBOL FOR AQUA=REGIA REGIA-2 VITAE VITAE-2",
   "ALCHEMICAL SYMBOL FOR BATH OF=MARY VAPOURS",
   "ALCHEMICAL SYMBOL FOR BLACK,ALCHEMICAL SYMBOL FOR PHILOSOPHERS=SULFUR",
   "ALCHEMICAL SYMBOL FOR CAPUT=MORTUUM",
   "ALCHEMICAL SYMBOL FOR COPPER=ANTIMONIATE ORE",
   "ALCHEMICAL SYMBOL FOR CROCUS OF=COPPER COPPER-2 IRON",
   "ALCHEMICAL SYMBOL FOR HALF=DRAM OUNCE",
   "ALCHEMICAL SYMBOL FOR HORSE=DUNG",
   "ALCHEMICAL SYMBOL FOR IRON-COPPER,ALCHEMICAL SYMBOL FOR LEAD=ORE",
   "ALCHEMICAL SYMBOL FOR IRON=ORE ORE-2",
   "ALCHEMICAL SYMBOL FOR MERCURY=SUBLIMATE SUBLIMATE-2 SUBLIMATE-3",
   "ALCHEMICAL SYMBOL FOR POT=ASHES",
   "ALCHEMICAL SYMBOL FOR POWDERED=BRICK",
   "ALCHEMICAL SYMBOL FOR QUICK=LIME",
   "ALCHEMICAL SYMBOL FOR REGULUS OF=ANTIMONY ANTIMONY-2 IRON",
   "ALCHEMICAL SYMBOL FOR ROCK=SALT SALT-2",
   "ALCHEMICAL SYMBOL FOR SALT OF COPPER=ANTIMONIATE",
   "ALCHEMICAL SYMBOL FOR SALT OF,ALCHEMICAL SYMBOL FOR VINEGAR OF=ANTIMONY",
   "ALCHEMICAL SYMBOL FOR SCEPTER OF=JOVE",
   "ALCHEMICAL SYMBOL FOR STARRED=TRIDENT",
   "ALCHEMICAL SYMBOL FOR STRATUM SUPER=STRATUM STRATUM-2",
   "ALCHEMICAL SYMBOL FOR SUBLIMATE OF SALT OF=ANTIMONY COPPER",
   "ALCHEMICAL SYMBOL FOR SUBLIMATE OF=ANTIMONY COPPER",
   "ALCHEMICAL SYMBOL FOR TIN=ORE",
   "ALCHEMICAL SYMBOL FOR=AIR ALEMBIC ALKALI ALKALI-2 ALUM AMALGAM AQUAFORTIS ARSENIC ASHES",
   "ALCHEMICAL SYMBOL FOR=AURIPIGMENT BORAX BORAX-2 BORAX-3 BRICK CADUCEUS CALX CINNABAR",
   "ALCHEMICAL SYMBOL FOR=CRUCIBLE CRUCIBLE-2 CRUCIBLE-3 CRUCIBLE-4 CRUCIBLE-5 DAY-NIGHT",
   "ALCHEMICAL SYMBOL FOR=DISSOLVE DISSOLVE-2 DISTILL EARTH FIRE GOLD GUM HOUR LODESTONE",
   "ALCHEMICAL SYMBOL FOR=MARCASITE MONTH NIGHT NITRE OIL POWDER PRECIPITATE PURIFY PUTREFACTION",
   "ALCHEMICAL SYMBOL FOR=QUINTESSENCE REALGAR REALGAR-2 REGULUS REGULUS-2 REGULUS-3 REGULUS-4",
   "ALCHEMICAL SYMBOL FOR=RETORT SAL-AMMONIAC SALT SILVER SOAP SPIRIT SUBLIMATION SULFUR TARTAR",
   "ALCHEMICAL SYMBOL FOR=TARTAR-2 TINCTURE TRIDENT TUTTY URINE VERDIGRIS VINEGAR VINEGAR-2",
   "ALCHEMICAL SYMBOL FOR=VINEGAR-3 VITRIOL VITRIOL-2 WATER WAX",
   "ALEF,ALTERNATIVE KEY,ANGER,ASCIA,ATOM,BET,BLACK UNIVERSAL RECYCLING,BLANK=SYMBOL",
   "ALIEN=MONSTER",
   "ALL EQUAL,ALMOST EQUAL,ALMOST EQUAL OR EQUAL=TO",
   "ALL=AROUND-PROFILE",
   "ALMOST EQUAL TO WITH CIRCUMFLEX,CIRCLED MULTIPLICATION SIGN WITH CIRCUMFLEX=ACCENT",
   "ALTERNATE ONE-WAY LEFT WAY,BLACK TWO-WAY LEFT WAY,WHITE TWO-WAY LEFT WAY=TRAFFIC",
   "AMALGAMATION OR=COPRODUCT",
   "AMERICAN,RUGBY=FOOTBALL",
   "ANATOLIAN HIEROGLYPH A383 RA OR,LINEAR B SYLLABLE B053=RI",
   "ANATOLIAN HIEROGLYPH A393=EIGHT",
   "ANATOLIAN HIEROGLYPH A410A END LOGOGRAM,ARABIC END OF TEXT,ARABIC QUESTION=MARK",
   "ANATOLIAN HIEROGLYPH=A001 A002 A003 A004 A005 A006 A007 A008 A009 A010 A010A A011 A012 A013",
   "ANATOLIAN HIEROGLYPH=A014 A015 A016 A017 A018 A019 A020 A021 A022 A023 A024 A025 A026 A026A",
   "ANATOLIAN HIEROGLYPH=A027 A028 A029 A030 A031 A032 A033 A034 A035 A036 A037 A038 A039 A039A",
   "ANATOLIAN HIEROGLYPH=A040 A041 A041A A042 A043 A044 A045 A045A A046 A046A A046B A047 A048",
   "ANATOLIAN HIEROGLYPH=A049 A050 A051 A052 A053 A054 A055 A056 A057 A058 A059 A060 A061 A062",
   "ANATOLIAN HIEROGLYPH=A063 A064 A065 A066 A066A A066B A066C A067 A068 A069 A070 A071 A072",
   "ANATOLIAN HIEROGLYPH=A073 A074 A075 A076 A077 A078 A079 A080 A081 A082 A083 A084 A085 A086",
   "ANATOLIAN HIEROGLYPH=A087 A088 A089 A090 A091 A092 A093 A094 A095 A096 A097 A097A A098 A098A",
   "ANATOLIAN HIEROGLYPH=A099 A100 A100A A101 A101A A102 A102A A103 A104 A104A A104B A104C A105",
   "ANATOLIAN HIEROGLYPH=A105A A105B A106 A107 A107A A107B A107C A108 A109 A110 A110A A110B A111",
   "ANATOLIAN HIEROGLYPH=A112 A113 A114 A115 A115A A116 A117 A118 A119 A120 A121 A122 A123 A124",
   "ANATOLIAN HIEROGLYPH=A125 A125A A126 A127 A128 A129 A130 A131 A132 A133 A134 A135 A135A A136",
   "ANATOLIAN HIEROGLYPH=A137 A138 A139 A140 A141 A142 A143 A144 A145 A146 A147 A148 A149 A150",
   "ANATOLIAN HIEROGLYPH=A151 A152 A153 A154 A155 A156 A157 A158 A159 A160 A161 A162 A163 A164",
   "ANATOLIAN HIEROGLYPH=A165 A166 A167 A168 A169 A170 A171 A172 A173 A174 A175 A176 A177 A178",
   "ANATOLIAN HIEROGLYPH=A179 A180 A181 A182 A183 A184 A185 A186 A187 A188 A189 A190 A191 A192",
   "ANATOLIAN HIEROGLYPH=A193 A194 A195 A196 A197 A198 A199 A200 A201 A202 A202A A202B A203 A204",
   "ANATOLIAN HIEROGLYPH=A205 A206 A207 A207A A208 A209 A209A A210 A211 A212 A213 A214 A215",
   "ANATOLIAN HIEROGLYPH=A215A A216 A216A A217 A218 A219 A220 A221 A222 A223 A224 A225 A226 A227",
   "ANATOLIAN HIEROGLYPH=A227A A228 A229 A230 A231 A232 A233 A234 A235 A236 A237 A238 A239 A240",
   "ANATOLIAN HIEROGLYPH=A241 A242 A243 A244 A245 A246 A247 A248 A249 A250 A251 A252 A253 A254",
   "ANATOLIAN HIEROGLYPH=A255 A256 A257 A258 A259 A260 A261 A262 A263 A264 A265 A266 A267 A267A",
   "ANATOLIAN HIEROGLYPH=A268 A269 A270 A271 A272 A273 A274 A275 A276 A277 A278 A279 A280 A281",
   "ANATOLIAN HIEROGLYPH=A282 A283 A284 A285 A286 A287 A288 A289 A289A A290 A291 A292 A293 A294",
   "ANATOLIAN HIEROGLYPH=A294A A295 A296 A297 A298 A299 A299A A300 A301 A302 A303 A304 A305 A306",
   "ANATOLIAN HIEROGLYPH=A307 A308 A309 A309A A310 A311 A312 A313 A314 A315 A316 A317 A318 A319",
   "ANATOLIAN HIEROGLYPH=A320 A321 A322 A323 A324 A325 A326 A327 A328 A329 A329A A330 A331 A332A",
   "ANATOLIAN HIEROGLYPH=A332B A332C A333 A334 A335 A336 A336A A336B A336C A337 A338 A339 A340",
   "ANATOLIAN HIEROGLYPH=A341 A342 A343 A344 A345 A346 A347 A348 A349 A350 A351 A352 A353 A354",
   "ANATOLIAN HIEROGLYPH=A355 A356 A357 A358 A359 A359A A360 A361 A362 A363 A364 A364A A365 A366",
   "ANATOLIAN HIEROGLYPH=A367 A368 A368A A369 A370 A371 A371A A372 A373 A374 A375 A376 A377 A378",
   "ANATOLIAN HIEROGLYPH=A379 A380 A381 A381A A382 A383A A384 A385 A386 A386A A387 A388 A389",
   "ANATOLIAN HIEROGLYPH=A390 A391 A392 A394 A395 A396 A397 A398 A399 A400 A401 A402 A403 A404",
   "ANATOLIAN HIEROGLYPH=A405 A406 A407 A408 A409 A411 A412 A413 A414 A415 A416 A417 A418 A419",
   "ANATOLIAN HIEROGLYPH=A420 A421 A422 A423 A424 A425 A426 A427 A428 A429 A430 A431 A432 A433",
   "ANATOLIAN HIEROGLYPH=A434 A435 A436 A437 A438 A439 A440 A441 A442 A443 A444 A445 A446 A447",
   "ANATOLIAN HIEROGLYPH=A448 A449 A450 A450A A451 A452 A453 A454 A455 A456 A457 A457A A458 A459",
   "ANATOLIAN HIEROGLYPH=A460 A461 A462 A463 A464 A465 A466 A467 A468 A469 A470 A471 A472 A473",
   "ANATOLIAN HIEROGLYPH=A474 A475 A476 A477 A478 A479 A480 A481 A482 A483 A484 A485 A486 A487",
   "ANATOLIAN HIEROGLYPH=A488 A489 A490 A491 A492 A493 A494 A495 A496 A497 A501 A502 A503 A504",
   "ANATOLIAN HIEROGLYPH=A505 A506 A507 A508 A509 A510 A511 A512 A513 A514 A515 A516 A517 A518",
   "ANATOLIAN HIEROGLYPH=A519 A520 A521 A522 A523 A524 A525 A526 A527 A528 A529 A530",
   "ANATOMICAL,BEATING,BROWN,COUPLE WITH,FLORAL,GROWING,HEAVY BLACK,PURPLE=HEART",
   "AND WITH,ARABIC BASELINE ROUND,ARABIC DAMMA WITH=DOT",
   "ANGLE WITH S,DIAMOND SHAPE WITH A DOT,GREATER-THAN WITH CIRCLE=INSIDE",
   "ANGLE WITH,APL FUNCTIONAL SYMBOL ALPHA,APL FUNCTIONAL SYMBOL DIAMOND=UNDERBAR",
   "ANGRY,ANGUISHED,ASTONISHED,BEAR,BLACK SMILING,CAT,CLOWN,CONFOUNDED,CONFUSED=FACE",
   "ANTENNA WITH,SOGDIAN PUNCTUATION TWO VERTICAL=BARS",
   "ANTICLOCKWISE CLOSED CIRCLE,ANTICLOCKWISE GAPPED CIRCLE=ARROW",
   "ANTICLOCKWISE CONTOUR,BOTTOM HALF,CLOCKWISE,CLOCKWISE CONTOUR,CONTOUR=INTEGRAL",
   "ANTICLOCKWISE DOWNWARDS AND UPWARDS OPEN CIRCLE=ARROWS",
   "ANTICLOCKWISE OPEN CIRCLE,ANTICLOCKWISE TOP SEMICIRCLE=ARROW",
   "ANTICLOCKWISE TRIANGLE-HEADED BOTTOM U-SHAPED=ARROW",
   "ANTICLOCKWISE TRIANGLE-HEADED LEFT U-SHAPED=ARROW",
   "ANTICLOCKWISE TRIANGLE-HEADED OPEN CIRCLE=ARROW",
   "ANTICLOCKWISE TRIANGLE-HEADED RIGHT U-SHAPED=ARROW",
   "ANTICLOCKWISE TRIANGLE-HEADED TOP U-SHAPED=ARROW",
   "ANTICLOCKWISE=INTEGRATION",
   "APL FUNCTIONAL SYMBOL BACKSLASH,APL FUNCTIONAL SYMBOL COMMA=BAR",
   "APL FUNCTIONAL SYMBOL CIRCLE=BACKSLASH DIAERESIS JOT STAR STILE UNDERBAR",
   "APL FUNCTIONAL SYMBOL DEL=DIAERESIS STILE TILDE",
   "APL FUNCTIONAL SYMBOL DELTA=STILE UNDERBAR",
   "APL FUNCTIONAL SYMBOL DOWN CARET,APL FUNCTIONAL SYMBOL STILE=TILDE",
   "APL FUNCTIONAL SYMBOL DOWN SHOE,APL FUNCTIONAL SYMBOL LEFT SHOE=STILE",
   "APL FUNCTIONAL SYMBOL DOWN TACK=JOT UNDERBAR",
   "APL FUNCTIONAL SYMBOL DOWNWARDS,APL FUNCTIONAL SYMBOL LEFTWARDS=VANE",
   "APL FUNCTIONAL SYMBOL EPSILON,APL FUNCTIONAL SYMBOL IOTA=UNDERBAR",
   "APL FUNCTIONAL SYMBOL GREATER-THAN,APL FUNCTIONAL SYMBOL STAR=DIAERESIS",
   "APL FUNCTIONAL SYMBOL JOT=DIAERESIS UNDERBAR",
   "APL FUNCTIONAL SYMBOL OMEGA,APL FUNCTIONAL SYMBOL SEMICOLON=UNDERBAR",
   "APL FUNCTIONAL SYMBOL QUAD DOWN,APL FUNCTIONAL SYMBOL QUAD UP=CARET",
   "APL FUNCTIONAL SYMBOL QUAD DOWNWARDS,APL FUNCTIONAL SYMBOL QUAD LEFTWARDS=ARROW",
   "APL FUNCTIONAL SYMBOL QUAD NOT,DOES NOT CONTAIN AS NORMAL SUBGROUP OR=EQUAL",
   "APL FUNCTIONAL SYMBOL QUAD RIGHTWARDS,APL FUNCTIONAL SYMBOL QUAD UPWARDS=ARROW",
   "APL FUNCTIONAL SYMBOL QUAD=BACKSLASH CIRCLE COLON DEL DELTA DIAMOND DIVIDE EQUAL",
   "APL FUNCTIONAL SYMBOL QUAD=GREATER-THAN JOT LESS-THAN QUESTION SLASH",
   "APL FUNCTIONAL SYMBOL QUOTE=QUAD UNDERBAR",
   "APL FUNCTIONAL SYMBOL RIGHTWARDS,APL FUNCTIONAL SYMBOL UPWARDS=VANE",
   "APL FUNCTIONAL SYMBOL SLASH,ARABIC LETTER LAM WITH=BAR",
   "APL FUNCTIONAL SYMBOL SQUISH=QUAD",
   "APL FUNCTIONAL SYMBOL TILDE,COMBINING LATIN SMALL LETTER A WITH=DIAERESIS",
   "APL FUNCTIONAL SYMBOL UP CARET=TILDE",
   "APL FUNCTIONAL SYMBOL UP SHOE=JOT",
   "APL FUNCTIONAL SYMBOL UP TACK=DIAERESIS JOT OVERBAR",
   "APL FUNCTIONAL SYMBOL=ALPHA I-BEAM IOTA OMEGA QUAD RHO ZILDE",
   "APPLICATION PROGRAM,OPERATING SYSTEM=COMMAND",
   "APPROACHES THE=LIMIT",
   "APPROXIMATELY BUT NOT ACTUALLY EQUAL,APPROXIMATELY EQUAL=TO",
   "APPROXIMATELY EQUAL OR EQUAL,ASYMPTOTICALLY EQUAL,CLOSED SUBSET OR EQUAL=TO",
   "ARABIC CURLY=DAMMA DAMMATAN FATHA FATHATAN KASRA KASRATAN",
   "ARABIC DAMMA ISOLATED,ARABIC DAMMA MEDIAL,ARABIC DAMMATAN ISOLATED=FORM",
   "ARABIC DATE,ARABIC DECIMAL,ARABIC THOUSANDS,BHAIKSUKI WORD=SEPARATOR",
   "ARABIC DISPUTED END OF,ARABIC END OF=AYAH",
   "ARABIC DOUBLE RIGHT ARROWHEAD ABOVE WITH=DOT",
   "ARABIC DOUBLE RIGHT ARROWHEAD,ARABIC FATHA WITH DOT=ABOVE",
   "ARABIC DOUBLED,ARABIC HALF MADDA OVER=MADDA",
   "ARABIC EMPTY CENTRE HIGH,ARABIC EMPTY CENTRE LOW,ARABIC FULL,ARMENIAN FULL=STOP",
   "ARABIC FATHA ISOLATED,ARABIC FATHA MEDIAL,ARABIC FATHATAN ISOLATED=FORM",
   "ARABIC FATHA WITH TWO,ARABIC LETTER HAH WITH SMALL ARABIC LETTER TAH AND TWO=DOTS",
   "ARABIC FATHA WITH,ARABIC LETTER ALEF WITH ATTACHED BOTTOM RIGHT KASRA AND LEFT=RING",
   "ARABIC FIVE POINTED,BLACK CENTRE WHITE,BLACK FOUR POINTED=STAR",
   "ARABIC FOOTNOTE,ARABIC SMALL HIGH FOOTNOTE,DOTTED TRANSPOSITION=MARKER",
   "ARABIC HAMZA,ARABIC LARGE ROUND DOT,ARABIC LEFT ARROWHEAD=ABOVE BELOW",
   "ARABIC INVERTED,ARABIC REVERSED=DAMMA",
   "ARABIC KASRA ISOLATED,ARABIC KASRA MEDIAL,ARABIC KASRATAN ISOLATED=FORM",
   "ARABIC KASRA WITH DOT,ARABIC LARGE CIRCLE=BELOW",
   "ARABIC LARGE ROUND DOT INSIDE CIRCLE,ARABIC LETTER BEH WITH INVERTED SMALL V=BELOW",
   "ARABIC LETTER AFRICAN QAF WITH THREE DOTS=ABOVE",
   "ARABIC LETTER AFRICAN=FEH NOON QAF",
   "ARABIC LETTER AIN FINAL,ARABIC LETTER AIN INITIAL,ARABIC LETTER AIN ISOLATED=FORM",
   "ARABIC LETTER AIN MEDIAL,ARABIC LETTER ALEF FINAL,ARABIC LETTER ALEF ISOLATED=FORM",
   "ARABIC LETTER AIN WITH THREE DOTS POINTING DOWNWARDS=ABOVE",
   "ARABIC LETTER AIN WITH THREE DOTS,ARABIC LETTER ALEF WITH ATTACHED ROUND DOT=ABOVE BELOW",
   "ARABIC LETTER AIN WITH TWO DOTS,ARABIC LETTER AIN WITH TWO DOTS VERTICALLY=ABOVE",
   "ARABIC LETTER ALEF MAKSURA FINAL,ARABIC LETTER ALEF MAKSURA ISOLATED=FORM",
   "ARABIC LETTER ALEF WASLA FINAL,ARABIC LETTER ALEF WASLA ISOLATED=FORM",
   "ARABIC LETTER ALEF WITH ATTACHED BOTTOM RIGHT KASRA AND DOT=ABOVE",
   "ARABIC LETTER ALEF WITH ATTACHED BOTTOM RIGHT,ARABIC SMALL HIGH NOON WITH=KASRA",
   "ARABIC LETTER ALEF WITH ATTACHED LEFT ROUND=DOT",
   "ARABIC LETTER ALEF WITH ATTACHED LEFT,ARABIC LETTER ALEF WITH ATTACHED RIGHT=HAMZA",
   "ARABIC LETTER ALEF WITH ATTACHED RIGHT ROUND,ARABIC RAISED ROUND=DOT",
   "ARABIC LETTER ALEF WITH ATTACHED TOP RIGHT FATHA AND DOT=ABOVE",
   "ARABIC LETTER ALEF WITH ATTACHED TOP RIGHT FATHA AND LEFT=RING",
   "ARABIC LETTER ALEF WITH ATTACHED TOP RIGHT=FATHA",
   "ARABIC LETTER ALEF WITH ATTACHED=FATHA KASRA",
   "ARABIC LETTER ALEF WITH DOT=ABOVE",
   "ARABIC LETTER ALEF WITH EXTENDED ARABIC-INDIC DIGIT THREE=ABOVE",
   "ARABIC LETTER ALEF WITH EXTENDED ARABIC-INDIC DIGIT TWO=ABOVE",
   "ARABIC LETTER ALEF WITH HAMZA ABOVE FINAL=FORM",
   "ARABIC LETTER ALEF WITH HAMZA ABOVE ISOLATED=FORM",
   "ARABIC LETTER ALEF WITH HAMZA BELOW FINAL=FORM",
   "ARABIC LETTER ALEF WITH HAMZA BELOW ISOLATED=FORM",
   "ARABIC LETTER ALEF WITH HAMZA,ARABIC LETTER ALEF WITH WAVY HAMZA=ABOVE BELOW",
   "ARABIC LETTER ALEF WITH LEFT MIDDLE,ARABIC LETTER ALEF WITH RIGHT MIDDLE=STROKE",
   "ARABIC LETTER ALEF WITH MADDA ABOVE FINAL=FORM",
   "ARABIC LETTER ALEF WITH MADDA ABOVE ISOLATED,ARABIC LETTER BEEH FINAL=FORM",
   "ARABIC LETTER ALEF WITH MADDA=ABOVE",
   "ARABIC LETTER ALEF WITH RIGHT MIDDLE STROKE AND DOT=ABOVE",
   "ARABIC LETTER ALEF WITH RIGHT MIDDLE STROKE AND LEFT,ARABIC LETTER DAL WITH=RING",
   "ARABIC LETTER ALEF=MAKSURA WASLA",
   "ARABIC LETTER BEEH INITIAL,ARABIC LETTER BEEH ISOLATED=FORM",
   "ARABIC LETTER BEEH MEDIAL,ARABIC LETTER BEH FINAL,ARABIC LETTER BEH INITIAL=FORM",
   "ARABIC LETTER BEH ISOLATED,ARABIC LETTER BEH MEDIAL,ARABIC LETTER BEHEH FINAL=FORM",
   "ARABIC LETTER BEH WITH DOT BELOW AND THREE DOTS,ARABIC LETTER BEH WITH HAMZA=ABOVE",
   "ARABIC LETTER BEH WITH SMALL MEEM=ABOVE",
   "ARABIC LETTER BEH WITH SMALL V,ARABIC LETTER BEH WITH THREE DOTS HORIZONTALLY=BELOW",
   "ARABIC LETTER BEH WITH SMALL,ARABIC LETTER DAL WITH INVERTED=V",
   "ARABIC LETTER BEH WITH THREE DOTS POINTING UPWARDS BELOW AND TWO DOTS=ABOVE",
   "ARABIC LETTER BEH WITH THREE DOTS POINTING UPWARDS,ARABIC LETTER DAD WITH DOT=BELOW",
   "ARABIC LETTER BEH WITH TWO DOTS BELOW AND DOT=ABOVE",
   "ARABIC LETTER BEHEH INITIAL,ARABIC LETTER BEHEH ISOLATED=FORM",
   "ARABIC LETTER BEHEH MEDIAL,ARABIC LETTER DAD FINAL,ARABIC LETTER DAD INITIAL=FORM",
   "ARABIC LETTER DAD ISOLATED,ARABIC LETTER DAD MEDIAL,ARABIC LETTER DAHAL FINAL=FORM",
   "ARABIC LETTER DAHAL ISOLATED,ARABIC LETTER DAL FINAL=FORM",
   "ARABIC LETTER DAL ISOLATED,ARABIC LETTER DDAHAL FINAL=FORM",
   "ARABIC LETTER DAL WITH DOT BELOW AND SMALL=TAH",
   "ARABIC LETTER DAL WITH DOT,ARABIC LETTER DAL WITH INVERTED SMALL V=BELOW",
   "ARABIC LETTER DAL WITH FOUR DOTS=ABOVE",
   "ARABIC LETTER DAL WITH THREE DOTS ABOVE=DOWNWARDS",
   "ARABIC LETTER DAL WITH THREE DOTS=BELOW",
   "ARABIC LETTER DAL WITH TWO DOTS VERTICALLY BELOW AND SMALL=TAH",
   "ARABIC LETTER DDAHAL ISOLATED,ARABIC LETTER DDAL FINAL=FORM",
   "ARABIC LETTER DDAL ISOLATED,ARABIC LETTER DUL FINAL,ARABIC LETTER DUL ISOLATED=FORM",
   "ARABIC LETTER DOTLESS=BEH FEH QAF",
   "ARABIC LETTER DYEH FINAL,ARABIC LETTER DYEH INITIAL=FORM",
   "ARABIC LETTER DYEH ISOLATED,ARABIC LETTER DYEH MEDIAL,ARABIC LETTER E FINAL=FORM",
   "ARABIC LETTER E INITIAL,ARABIC LETTER E ISOLATED,ARABIC LETTER E MEDIAL=FORM",
   "ARABIC LETTER FARSI YEH FINAL,ARABIC LETTER FARSI YEH INITIAL=FORM",
   "ARABIC LETTER FARSI YEH ISOLATED,ARABIC LETTER FARSI YEH MEDIAL=FORM",
   "ARABIC LETTER FARSI YEH WITH EXTENDED ARABIC-INDIC DIGIT FOUR=BELOW",
   "ARABIC LETTER FARSI YEH WITH EXTENDED ARABIC-INDIC DIGIT THREE=ABOVE",
   "ARABIC LETTER FARSI YEH WITH EXTENDED ARABIC-INDIC DIGIT TWO=ABOVE",
   "ARABIC LETTER FARSI YEH WITH INVERTED,ARABIC LETTER HEH WITH INVERTED=V",
   "ARABIC LETTER FARSI YEH WITH THREE DOTS,ARABIC LETTER FARSI YEH WITH TWO DOTS=ABOVE",
   "ARABIC LETTER FARSI,ARABIC LETTER KASHMIRI,ARABIC LETTER ROHINGYA=YEH",
   "ARABIC LETTER FEH FINAL,ARABIC LETTER FEH INITIAL,ARABIC LETTER FEH ISOLATED=FORM",
   "ARABIC LETTER FEH MEDIAL,ARABIC LETTER GAF FINAL,ARABIC LETTER GAF INITIAL=FORM",
   "ARABIC LETTER FEH WITH DOT BELOW AND THREE DOTS=ABOVE",
   "ARABIC LETTER FEH WITH DOT,ARABIC LETTER FEH WITH DOT MOVED=BELOW",
   "ARABIC LETTER FEH WITH THREE DOTS POINTING UPWARDS=BELOW",
   "ARABIC LETTER FEH WITH THREE DOTS=BELOW",
   "ARABIC LETTER FEH WITH TWO DOTS,ARABIC LETTER GAF WITH TWO DOTS=BELOW",
   "ARABIC LETTER GAF ISOLATED,ARABIC LETTER GAF MEDIAL,ARABIC LETTER GHAIN FINAL=FORM",
   "ARABIC LETTER GAF WITH INVERTED,ARMENIAN SMALL LETTER YI WITH=STROKE",
   "ARABIC LETTER GAF WITH THREE DOTS,ARABIC LETTER GHAIN WITH THREE DOTS=ABOVE",
   "ARABIC LETTER GAF WITH,ARABIC LETTER KAF WITH,ARABIC LETTER NOON WITH=RING",
   "ARABIC LETTER GHAIN INITIAL,ARABIC LETTER GHAIN ISOLATED=FORM",
   "ARABIC LETTER GHAIN MEDIAL,ARABIC LETTER GUEH FINAL,ARABIC LETTER GUEH INITIAL=FORM",
   "ARABIC LETTER GHAIN WITH DOT=BELOW",
   "ARABIC LETTER GUEH ISOLATED,ARABIC LETTER GUEH MEDIAL,ARABIC LETTER HAH FINAL=FORM",
   "ARABIC LETTER HAH INITIAL,ARABIC LETTER HAH ISOLATED,ARABIC LETTER HAH MEDIAL=FORM",
   "ARABIC LETTER HAH WITH EXTENDED ARABIC-INDIC DIGIT FOUR=BELOW",
   "ARABIC LETTER HAH WITH HAMZA,ARABIC LETTER HAH WITH THREE DOTS=ABOVE",
   "ARABIC LETTER HAH WITH INVERTED SMALL V=BELOW",
   "ARABIC LETTER HAH WITH SMALL ARABIC LETTER TAH=ABOVE BELOW",
   "ARABIC LETTER HAH WITH THREE DOTS POINTING UPWARDS=BELOW",
   "ARABIC LETTER HAH WITH TWO DOTS,ARABIC LETTER HAH WITH TWO DOTS VERTICAL=ABOVE",
   "ARABIC LETTER HAMZA ISOLATED,ARABIC LETTER HEH DOACHASHMEE FINAL=FORM",
   "ARABIC LETTER HEH DOACHASHMEE INITIAL,ARABIC LETTER HEH DOACHASHMEE ISOLATED=FORM",
   "ARABIC LETTER HEH DOACHASHMEE MEDIAL,ARABIC LETTER HEH FINAL=FORM",
   "ARABIC LETTER HEH GOAL FINAL,ARABIC LETTER HEH GOAL INITIAL=FORM",
   "ARABIC LETTER HEH GOAL ISOLATED,ARABIC LETTER HEH GOAL MEDIAL=FORM",
   "ARABIC LETTER HEH GOAL WITH HAMZA,ARABIC LETTER HEH WITH YEH=ABOVE",
   "ARABIC LETTER HEH INITIAL,ARABIC LETTER HEH ISOLATED,ARABIC LETTER HEH MEDIAL=FORM",
   "ARABIC LETTER HEH WITH YEH ABOVE FINAL=FORM",
   "ARABIC LETTER HEH WITH YEH ABOVE ISOLATED,ARABIC LETTER JEEM FINAL=FORM",
   "ARABIC LETTER HEH=DOACHASHMEE GOAL",
   "ARABIC LETTER HIGH HAMZA=ALEF WAW YEH",
   "ARABIC LETTER HIGH=HAMZA",
   "ARABIC LETTER JEEM INITIAL,ARABIC LETTER JEEM ISOLATED=FORM",
   "ARABIC LETTER JEEM MEDIAL,ARABIC LETTER JEH FINAL,ARABIC LETTER JEH ISOLATED=FORM",
   "ARABIC LETTER JEEM WITH THREE DOTS,ARABIC LETTER KAF WITH DOT=ABOVE BELOW",
   "ARABIC LETTER JEEM WITH TWO DOTS,ARABIC LETTER KAF WITH TWO DOTS=ABOVE",
   "ARABIC LETTER KAF FINAL,ARABIC LETTER KAF INITIAL,ARABIC LETTER KAF ISOLATED=FORM",
   "ARABIC LETTER KAF MEDIAL,ARABIC LETTER KEHEH FINAL,ARABIC LETTER KEHEH INITIAL=FORM",
   "ARABIC LETTER KAF WITH THREE DOTS=BELOW",
   "ARABIC LETTER KEHEH ISOLATED,ARABIC LETTER KEHEH MEDIAL=FORM",
   "ARABIC LETTER KEHEH WITH DOT,ARABIC LETTER KEHEH WITH TWO DOTS=ABOVE",
   "ARABIC LETTER KEHEH WITH SMALL,ARABIC LETTER LAM WITH SMALL=V",
   "ARABIC LETTER KEHEH WITH THREE DOTS POINTING UPWARDS=BELOW",
   "ARABIC LETTER KEHEH WITH THREE DOTS,ARABIC LETTER LAM WITH THREE DOTS=ABOVE BELOW",
   "ARABIC LETTER KEHEH WITH TWO DOTS VERTICALLY,ARABIC LETTER NOON WITH DOT=BELOW",
   "ARABIC LETTER KHAH FINAL,ARABIC LETTER KHAH INITIAL=FORM",
   "ARABIC LETTER KHAH ISOLATED,ARABIC LETTER KHAH MEDIAL=FORM",
   "ARABIC LETTER KIRGHIZ OE FINAL,ARABIC LETTER KIRGHIZ OE ISOLATED=FORM",
   "ARABIC LETTER KIRGHIZ YU FINAL,ARABIC LETTER KIRGHIZ YU ISOLATED=FORM",
   "ARABIC LETTER KIRGHIZ=OE YU",
   "ARABIC LETTER LAM FINAL,ARABIC LETTER LAM INITIAL,ARABIC LETTER LAM ISOLATED=FORM",
   "ARABIC LETTER LAM MEDIAL,ARABIC LETTER MEEM FINAL,ARABIC LETTER MEEM INITIAL=FORM",
   "ARABIC LETTER LAM WITH DOT,ARABIC LETTER LAM WITH SMALL ARABIC LETTER TAH=ABOVE",
   "ARABIC LETTER LAM WITH DOUBLE,BLACK LEFT-POINTING DOUBLE TRIANGLE WITH VERTICAL=BAR",
   "ARABIC LETTER LOW,ARABIC LETTER SUPERSCRIPT,ARABIC SMALL HIGH LAM=ALEF",
   "ARABIC LETTER MEEM ISOLATED,ARABIC LETTER MEEM MEDIAL,ARABIC LETTER NG FINAL=FORM",
   "ARABIC LETTER MEEM WITH DOT,ARABIC LETTER QAF WITH DOT=ABOVE BELOW",
   "ARABIC LETTER MEEM WITH THREE DOTS,ARABIC LETTER NOON WITH THREE DOTS=ABOVE",
   "ARABIC LETTER NG INITIAL,ARABIC LETTER NG ISOLATED,ARABIC LETTER NG MEDIAL=FORM",
   "ARABIC LETTER NGOEH FINAL,ARABIC LETTER NGOEH INITIAL=FORM",
   "ARABIC LETTER NGOEH ISOLATED,ARABIC LETTER NGOEH MEDIAL=FORM",
   "ARABIC LETTER NOON FINAL,ARABIC LETTER NOON GHUNNA FINAL=FORM",
   "ARABIC LETTER NOON GHUNNA ISOLATED,ARABIC LETTER NOON INITIAL=FORM",
   "ARABIC LETTER NOON ISOLATED,ARABIC LETTER NOON MEDIAL,ARABIC LETTER NYEH FINAL=FORM",
   "ARABIC LETTER NOON WITH INVERTED SMALL,ARABIC LETTER PEH WITH SMALL=V",
   "ARABIC LETTER NOON WITH SMALL=TAH V",
   "ARABIC LETTER NOON WITH TWO DOTS,ARABIC LETTER REH WITH DOT=BELOW",
   "ARABIC LETTER NOON,ARABIC MARK NOON,ARABIC MARK SIDEWAYS NOON=GHUNNA",
   "ARABIC LETTER NYEH INITIAL,ARABIC LETTER NYEH ISOLATED=FORM",
   "ARABIC LETTER NYEH MEDIAL,ARABIC LETTER OE FINAL,ARABIC LETTER OE ISOLATED=FORM",
   "ARABIC LETTER PEH FINAL,ARABIC LETTER PEH INITIAL,ARABIC LETTER PEH ISOLATED=FORM",
   "ARABIC LETTER PEH MEDIAL,ARABIC LETTER PEHEH FINAL,ARABIC LETTER PEHEH INITIAL=FORM",
   "ARABIC LETTER PEH WITH SMALL MEEM=ABOVE",
   "ARABIC LETTER PEHEH ISOLATED,ARABIC LETTER PEHEH MEDIAL=FORM",
   "ARABIC LETTER QAF FINAL,ARABIC LETTER QAF INITIAL,ARABIC LETTER QAF ISOLATED=FORM",
   "ARABIC LETTER QAF MEDIAL,ARABIC LETTER REH FINAL,ARABIC LETTER REH ISOLATED=FORM",
   "ARABIC LETTER QAF WITH DOT BELOW AND NO DOTS=ABOVE",
   "ARABIC LETTER QAF WITH THREE DOTS,ARABIC LETTER REH WITH DOT BELOW AND DOT=ABOVE",
   "ARABIC LETTER REH WITH FOUR DOTS,ARABIC LETTER REH WITH HAMZA=ABOVE",
   "ARABIC LETTER REH WITH INVERTED,ARABIC LETTER REH WITH SMALL=V",
   "ARABIC LETTER REH WITH SMALL ARABIC LETTER TAH AND TWO=DOTS",
   "ARABIC LETTER REH WITH SMALL NOON,ARABIC LETTER REH WITH TWO DOTS=ABOVE",
   "ARABIC LETTER REH WITH SMALL V,ARABIC LETTER SAD WITH TWO DOTS=BELOW",
   "ARABIC LETTER REH WITH TWO DOTS VERTICALLY=ABOVE",
   "ARABIC LETTER REH WITH=LOOP RING STROKE",
   "ARABIC LETTER RNOON FINAL,ARABIC LETTER RNOON INITIAL=FORM",
   "ARABIC LETTER RNOON ISOLATED,ARABIC LETTER RNOON MEDIAL=FORM",
   "ARABIC LETTER RREH FINAL,ARABIC LETTER RREH ISOLATED,ARABIC LETTER SAD FINAL=FORM",
   "ARABIC LETTER SAD INITIAL,ARABIC LETTER SAD ISOLATED,ARABIC LETTER SAD MEDIAL=FORM",
   "ARABIC LETTER SAD WITH THREE DOTS,ARABIC LETTER TAH WITH THREE DOTS=ABOVE BELOW",
   "ARABIC LETTER SEEN FINAL,ARABIC LETTER SEEN INITIAL=FORM",
   "ARABIC LETTER SEEN ISOLATED,ARABIC LETTER SEEN MEDIAL=FORM",
   "ARABIC LETTER SEEN WITH DOT BELOW AND DOT=ABOVE",
   "ARABIC LETTER SEEN WITH EXTENDED ARABIC-INDIC DIGIT FOUR=ABOVE",
   "ARABIC LETTER SEEN WITH FOUR DOTS=ABOVE",
   "ARABIC LETTER SEEN WITH INVERTED,ARABIC LETTER TCHEH WITH SMALL=V",
   "ARABIC LETTER SEEN WITH SMALL ARABIC LETTER TAH AND TWO=DOTS",
   "ARABIC LETTER SEEN WITH THREE DOTS BELOW AND THREE DOTS=ABOVE",
   "ARABIC LETTER SEEN WITH THREE DOTS,ARABIC LETTER SHEEN WITH DOT=BELOW",
   "ARABIC LETTER SEEN WITH TWO DOTS VERTICALLY,ARABIC LETTER TAH WITH TWO DOTS=ABOVE",
   "ARABIC LETTER SHEEN FINAL,ARABIC LETTER SHEEN INITIAL=FORM",
   "ARABIC LETTER SHEEN ISOLATED,ARABIC LETTER SHEEN MEDIAL=FORM",
   "ARABIC LETTER STRAIGHT,CHORASMIAN LETTER CURLED=WAW",
   "ARABIC LETTER SWASH=KAF",
   "ARABIC LETTER TAH FINAL,ARABIC LETTER TAH INITIAL,ARABIC LETTER TAH ISOLATED=FORM",
   "ARABIC LETTER TAH MEDIAL,ARABIC LETTER TCHEH FINAL,ARABIC LETTER TCHEH INITIAL=FORM",
   "ARABIC LETTER TAH WITH DOT,ARABIC LETTER YEH WITH THREE DOTS=BELOW",
   "ARABIC LETTER TCHEH ISOLATED,ARABIC LETTER TCHEH MEDIAL=FORM",
   "ARABIC LETTER TCHEH WITH DOT,ARABIC LETTER TEH WITH SMALL TEH=ABOVE",
   "ARABIC LETTER TCHEHEH FINAL,ARABIC LETTER TCHEHEH INITIAL=FORM",
   "ARABIC LETTER TCHEHEH ISOLATED,ARABIC LETTER TCHEHEH MEDIAL=FORM",
   "ARABIC LETTER TEH FINAL,ARABIC LETTER TEH INITIAL,ARABIC LETTER TEH ISOLATED=FORM",
   "ARABIC LETTER TEH MARBUTA FINAL,ARABIC LETTER TEH MARBUTA ISOLATED=FORM",
   "ARABIC LETTER TEH MARBUTA=GOAL",
   "ARABIC LETTER TEH MEDIAL,ARABIC LETTER TEHEH FINAL,ARABIC LETTER TEHEH INITIAL=FORM",
   "ARABIC LETTER TEH WITH SMALL,ARABIC LETTER TTEH WITH SMALL=V",
   "ARABIC LETTER TEH WITH THREE DOTS ABOVE=DOWNWARDS",
   "ARABIC LETTER TEH WITH,ARABIC LETTER WAW WITH,ARABIC SYMBOL=RING",
   "ARABIC LETTER TEH=MARBUTA",
   "ARABIC LETTER TEHEH ISOLATED,ARABIC LETTER TEHEH MEDIAL=FORM",
   "ARABIC LETTER THAL FINAL,ARABIC LETTER THAL ISOLATED,ARABIC LETTER THEH FINAL=FORM",
   "ARABIC LETTER THEH INITIAL,ARABIC LETTER THEH ISOLATED=FORM",
   "ARABIC LETTER THEH MEDIAL,ARABIC LETTER TTEH FINAL,ARABIC LETTER TTEH INITIAL=FORM",
   "ARABIC LETTER THIN,ARABIC SMALL FARSI,ARABIC SMALL HIGH FARSI=YEH",
   "ARABIC LETTER TTEH ISOLATED,ARABIC LETTER TTEH MEDIAL=FORM",
   "ARABIC LETTER TTEHEH FINAL,ARABIC LETTER TTEHEH INITIAL=FORM",
   "ARABIC LETTER TTEHEH ISOLATED,ARABIC LETTER TTEHEH MEDIAL=FORM",
   "ARABIC LETTER U FINAL,ARABIC LETTER U ISOLATED=FORM",
   "ARABIC LETTER U WITH HAMZA ABOVE ISOLATED=FORM",
   "ARABIC LETTER U WITH HAMZA=ABOVE",
   "ARABIC LETTER UIGHUR KAZAKH KIRGHIZ ALEF MAKSURA INITIAL=FORM",
   "ARABIC LETTER UIGHUR KAZAKH KIRGHIZ ALEF MAKSURA MEDIAL,ARABIC LETTER VE FINAL=FORM",
   "ARABIC LETTER VE ISOLATED,ARABIC LETTER VEH FINAL,ARABIC LETTER VEH INITIAL=FORM",
   "ARABIC LETTER VEH ISOLATED,ARABIC LETTER VEH MEDIAL,ARABIC LETTER WAW FINAL=FORM",
   "ARABIC LETTER WAW ISOLATED,ARABIC LETTER WAW WITH HAMZA ABOVE FINAL=FORM",
   "ARABIC LETTER WAW WITH DOT=ABOVE WITHIN",
   "ARABIC LETTER WAW WITH EXTENDED ARABIC-INDIC DIGIT THREE=ABOVE",
   "ARABIC LETTER WAW WITH EXTENDED ARABIC-INDIC DIGIT TWO=ABOVE",
   "ARABIC LETTER WAW WITH HAMZA ABOVE ISOLATED,ARABIC LETTER YEH BARREE FINAL=FORM",
   "ARABIC LETTER WAW WITH HAMZA,ARABIC LETTER WAW WITH TWO DOTS=ABOVE",
   "ARABIC LETTER YEH BARREE ISOLATED=FORM",
   "ARABIC LETTER YEH BARREE WITH EXTENDED ARABIC-INDIC DIGIT THREE=ABOVE",
   "ARABIC LETTER YEH BARREE WITH EXTENDED ARABIC-INDIC DIGIT TWO=ABOVE",
   "ARABIC LETTER YEH BARREE WITH HAMZA ABOVE FINAL=FORM",
   "ARABIC LETTER YEH BARREE WITH HAMZA ABOVE ISOLATED,ARABIC LETTER YEH FINAL=FORM",
   "ARABIC LETTER YEH BARREE WITH HAMZA,ARABIC LETTER YEH WITH HAMZA=ABOVE",
   "ARABIC LETTER YEH INITIAL,ARABIC LETTER YEH ISOLATED,ARABIC LETTER YEH MEDIAL=FORM",
   "ARABIC LETTER YEH WITH HAMZA ABOVE FINAL=FORM",
   "ARABIC LETTER YEH WITH HAMZA ABOVE INITIAL=FORM",
   "ARABIC LETTER YEH WITH HAMZA ABOVE ISOLATED=FORM",
   "ARABIC LETTER YEH WITH HAMZA ABOVE MEDIAL,ARABIC LETTER YU FINAL=FORM",
   "ARABIC LETTER YEH WITH SMALL=V",
   "ARABIC LETTER YEH WITH TWO DOTS BELOW AND DOT=ABOVE",
   "ARABIC LETTER YEH WITH TWO DOTS BELOW AND HAMZA=ABOVE",
   "ARABIC LETTER YEH WITH TWO DOTS BELOW AND SMALL NOON=ABOVE",
   "ARABIC LETTER YEH WITH,ARABIC VERTICAL,BACKSLANTED SOUTH ARROW WITH HOOKED=TAIL",
   "ARABIC LETTER YEH=BARREE",
   "ARABIC LETTER YU ISOLATED,ARABIC LETTER ZAH FINAL,ARABIC LETTER ZAH INITIAL=FORM",
   "ARABIC LETTER ZAH ISOLATED,ARABIC LETTER ZAH MEDIAL,ARABIC LETTER ZAIN FINAL=FORM",
   "ARABIC LETTER ZAIN ISOLATED,ARABIC LIGATURE AIN WITH ALEF MAKSURA FINAL=FORM",
   "ARABIC LETTER ZAIN WITH INVERTED V,ARABIC MADDAH,ARABIC NUMBER MARK=ABOVE",
   "ARABIC LETTER=AE AIN ALEF BEEH BEH BEHEH DAD DAHAL DAL DDAHAL DDAL DUL DYEH E FEH GAF GHAIN",
   "ARABIC LETTER=GRAF GUEH HAH HAMZA HEH JEEM JEH KAF KEHEH KHAH LAM MARK MEEM NG NGOEH NOON",
   "ARABIC LETTER=NYEH OE PEH PEHEH QAF REH RNOON RREH SAD SEEN SHEEN TAH TCHEH TCHEHEH TEH",
   "ARABIC LETTER=TEHEH THAL THEH TTEH TTEHEH U VE VEH WAW YEH YU ZAH ZAIN",
   "ARABIC LIGATURE AIN WITH ALEF MAKSURA ISOLATED=FORM",
   "ARABIC LIGATURE AIN WITH JEEM INITIAL,ARABIC LIGATURE AIN WITH JEEM ISOLATED=FORM",
   "ARABIC LIGATURE AIN WITH JEEM WITH MEEM FINAL=FORM",
   "ARABIC LIGATURE AIN WITH JEEM WITH MEEM INITIAL=FORM",
   "ARABIC LIGATURE AIN WITH MEEM INITIAL,ARABIC LIGATURE AIN WITH MEEM ISOLATED=FORM",
   "ARABIC LIGATURE AIN WITH MEEM WITH ALEF MAKSURA FINAL=FORM",
   "ARABIC LIGATURE AIN WITH MEEM WITH MEEM FINAL=FORM",
   "ARABIC LIGATURE AIN WITH MEEM WITH MEEM INITIAL=FORM",
   "ARABIC LIGATURE AIN WITH MEEM WITH YEH FINAL=FORM",
   "ARABIC LIGATURE AIN WITH YEH FINAL,ARABIC LIGATURE AIN WITH YEH ISOLATED=FORM",
   "ARABIC LIGATURE AKBAR ISOLATED,ARABIC LIGATURE ALAYHE ISOLATED=FORM",
   "ARABIC LIGATURE ALAYHAA,ARABIC LIGATURE ALAYHI,ARABIC LIGATURE ALAYHIM=AS-SALAAM",
   "ARABIC LIGATURE ALAYHI AS-SALAATU=WAS-SALAAM",
   "ARABIC LIGATURE ALAYHIMAA=AS-SALAAM",
   "ARABIC LIGATURE ALEF MAKSURA WITH SUPERSCRIPT ALEF FINAL=FORM",
   "ARABIC LIGATURE ALEF MAKSURA WITH SUPERSCRIPT ALEF ISOLATED=FORM",
   "ARABIC LIGATURE ALEF WITH FATHATAN FINAL=FORM",
   "ARABIC LIGATURE ALEF WITH FATHATAN ISOLATED,ARABIC LIGATURE ALLAH ISOLATED=FORM",
   "ARABIC LIGATURE AZZA WA=JALL",
   "ARABIC LIGATURE BEH WITH ALEF MAKSURA FINAL=FORM",
   "ARABIC LIGATURE BEH WITH ALEF MAKSURA ISOLATED=FORM",
   "ARABIC LIGATURE BEH WITH HAH INITIAL,ARABIC LIGATURE BEH WITH HAH ISOLATED=FORM",
   "ARABIC LIGATURE BEH WITH HAH WITH YEH FINAL=FORM",
   "ARABIC LIGATURE BEH WITH HEH INITIAL,ARABIC LIGATURE BEH WITH HEH MEDIAL=FORM",
   "ARABIC LIGATURE BEH WITH JEEM INITIAL,ARABIC LIGATURE BEH WITH JEEM ISOLATED=FORM",
   "ARABIC LIGATURE BEH WITH KHAH INITIAL,ARABIC LIGATURE BEH WITH KHAH ISOLATED=FORM",
   "ARABIC LIGATURE BEH WITH KHAH WITH YEH FINAL=FORM",
   "ARABIC LIGATURE BEH WITH MEEM FINAL,ARABIC LIGATURE BEH WITH MEEM INITIAL=FORM",
   "ARABIC LIGATURE BEH WITH MEEM ISOLATED,ARABIC LIGATURE BEH WITH MEEM MEDIAL=FORM",
   "ARABIC LIGATURE BEH WITH NOON FINAL,ARABIC LIGATURE BEH WITH REH FINAL=FORM",
   "ARABIC LIGATURE BEH WITH YEH FINAL,ARABIC LIGATURE BEH WITH YEH ISOLATED=FORM",
   "ARABIC LIGATURE BEH WITH ZAIN FINAL=FORM",
   "ARABIC LIGATURE BISMILLAH AR-RAHMAN=AR-RAHEEM",
   "ARABIC LIGATURE DAD WITH ALEF MAKSURA FINAL=FORM",
   "ARABIC LIGATURE DAD WITH ALEF MAKSURA ISOLATED=FORM",
   "ARABIC LIGATURE DAD WITH HAH INITIAL,ARABIC LIGATURE DAD WITH HAH ISOLATED=FORM",
   "ARABIC LIGATURE DAD WITH HAH WITH ALEF MAKSURA FINAL=FORM",
   "ARABIC LIGATURE DAD WITH HAH WITH YEH FINAL=FORM",
   "ARABIC LIGATURE DAD WITH JEEM INITIAL,ARABIC LIGATURE DAD WITH JEEM ISOLATED=FORM",
   "ARABIC LIGATURE DAD WITH KHAH INITIAL,ARABIC LIGATURE DAD WITH KHAH ISOLATED=FORM",
   "ARABIC LIGATURE DAD WITH KHAH WITH MEEM FINAL=FORM",
   "ARABIC LIGATURE DAD WITH KHAH WITH MEEM INITIAL=FORM",
   "ARABIC LIGATURE DAD WITH MEEM INITIAL,ARABIC LIGATURE DAD WITH MEEM ISOLATED=FORM",
   "ARABIC LIGATURE DAD WITH REH FINAL,ARABIC LIGATURE DAD WITH REH ISOLATED=FORM",
   "ARABIC LIGATURE DAD WITH YEH FINAL,ARABIC LIGATURE DAD WITH YEH ISOLATED=FORM",
   "ARABIC LIGATURE FEH WITH ALEF MAKSURA FINAL=FORM",
   "ARABIC LIGATURE FEH WITH ALEF MAKSURA ISOLATED=FORM",
   "ARABIC LIGATURE FEH WITH HAH INITIAL,ARABIC LIGATURE FEH WITH HAH ISOLATED=FORM",
   "ARABIC LIGATURE FEH WITH JEEM INITIAL,ARABIC LIGATURE FEH WITH JEEM ISOLATED=FORM",
   "ARABIC LIGATURE FEH WITH KHAH INITIAL,ARABIC LIGATURE FEH WITH KHAH ISOLATED=FORM",
   "ARABIC LIGATURE FEH WITH KHAH WITH MEEM FINAL=FORM",
   "ARABIC LIGATURE FEH WITH KHAH WITH MEEM INITIAL=FORM",
   "ARABIC LIGATURE FEH WITH MEEM INITIAL,ARABIC LIGATURE FEH WITH MEEM ISOLATED=FORM",
   "ARABIC LIGATURE FEH WITH MEEM WITH YEH FINAL=FORM",
   "ARABIC LIGATURE FEH WITH YEH FINAL,ARABIC LIGATURE FEH WITH YEH ISOLATED=FORM",
   "ARABIC LIGATURE GHAIN WITH ALEF MAKSURA FINAL=FORM",
   "ARABIC LIGATURE GHAIN WITH ALEF MAKSURA ISOLATED=FORM",
   "ARABIC LIGATURE GHAIN WITH JEEM INITIAL=FORM",
   "ARABIC LIGATURE GHAIN WITH JEEM ISOLATED=FORM",
   "ARABIC LIGATURE GHAIN WITH MEEM INITIAL=FORM",
   "ARABIC LIGATURE GHAIN WITH MEEM ISOLATED=FORM",
   "ARABIC LIGATURE GHAIN WITH MEEM WITH ALEF MAKSURA FINAL=FORM",
   "ARABIC LIGATURE GHAIN WITH MEEM WITH MEEM FINAL=FORM",
   "ARABIC LIGATURE GHAIN WITH MEEM WITH YEH FINAL=FORM",
   "ARABIC LIGATURE GHAIN WITH YEH FINAL,ARABIC LIGATURE GHAIN WITH YEH ISOLATED=FORM",
   "ARABIC LIGATURE HAH WITH ALEF MAKSURA FINAL=FORM",
   "ARABIC LIGATURE HAH WITH ALEF MAKSURA ISOLATED=FORM",
   "ARABIC LIGATURE HAH WITH JEEM INITIAL,ARABIC LIGATURE HAH WITH JEEM ISOLATED=FORM",
   "ARABIC LIGATURE HAH WITH JEEM WITH YEH FINAL=FORM",
   "ARABIC LIGATURE HAH WITH MEEM INITIAL,ARABIC LIGATURE HAH WITH MEEM ISOLATED=FORM",
   "ARABIC LIGATURE HAH WITH MEEM WITH ALEF MAKSURA FINAL=FORM",
   "ARABIC LIGATURE HAH WITH MEEM WITH YEH FINAL=FORM",
   "ARABIC LIGATURE HAH WITH YEH FINAL,ARABIC LIGATURE HAH WITH YEH ISOLATED=FORM",
   "ARABIC LIGATURE HEH WITH ALEF MAKSURA ISOLATED=FORM",
   "ARABIC LIGATURE HEH WITH JEEM INITIAL,ARABIC LIGATURE HEH WITH JEEM ISOLATED=FORM",
   "ARABIC LIGATURE HEH WITH MEEM INITIAL,ARABIC LIGATURE HEH WITH MEEM ISOLATED=FORM",
   "ARABIC LIGATURE HEH WITH MEEM WITH JEEM INITIAL=FORM",
   "ARABIC LIGATURE HEH WITH MEEM WITH MEEM INITIAL=FORM",
   "ARABIC LIGATURE HEH WITH SUPERSCRIPT ALEF INITIAL=FORM",
   "ARABIC LIGATURE HEH WITH YEH ISOLATED=FORM",
   "ARABIC LIGATURE JEEM WITH ALEF MAKSURA FINAL=FORM",
   "ARABIC LIGATURE JEEM WITH ALEF MAKSURA ISOLATED=FORM",
   "ARABIC LIGATURE JEEM WITH HAH INITIAL,ARABIC LIGATURE JEEM WITH HAH ISOLATED=FORM",
   "ARABIC LIGATURE JEEM WITH HAH WITH ALEF MAKSURA FINAL=FORM",
   "ARABIC LIGATURE JEEM WITH HAH WITH YEH FINAL=FORM",
   "ARABIC LIGATURE JEEM WITH MEEM INITIAL,ARABIC LIGATURE JEEM WITH MEEM ISOLATED=FORM",
   "ARABIC LIGATURE JEEM WITH MEEM WITH ALEF MAKSURA FINAL=FORM",
   "ARABIC LIGATURE JEEM WITH MEEM WITH HAH FINAL=FORM",
   "ARABIC LIGATURE JEEM WITH MEEM WITH HAH INITIAL=FORM",
   "ARABIC LIGATURE JEEM WITH MEEM WITH YEH FINAL=FORM",
   "ARABIC LIGATURE JEEM WITH YEH FINAL,ARABIC LIGATURE JEEM WITH YEH ISOLATED=FORM",
   "ARABIC LIGATURE KAF WITH ALEF FINAL,ARABIC LIGATURE KAF WITH ALEF ISOLATED=FORM",
   "ARABIC LIGATURE KAF WITH ALEF MAKSURA FINAL=FORM",
   "ARABIC LIGATURE KAF WITH ALEF MAKSURA ISOLATED=FORM",
   "ARABIC LIGATURE KAF WITH HAH INITIAL,ARABIC LIGATURE KAF WITH HAH ISOLATED=FORM",
   "ARABIC LIGATURE KAF WITH JEEM INITIAL,ARABIC LIGATURE KAF WITH JEEM ISOLATED=FORM",
   "ARABIC LIGATURE KAF WITH KHAH INITIAL,ARABIC LIGATURE KAF WITH KHAH ISOLATED=FORM",
   "ARABIC LIGATURE KAF WITH LAM FINAL,ARABIC LIGATURE KAF WITH LAM INITIAL=FORM",
   "ARABIC LIGATURE KAF WITH LAM ISOLATED,ARABIC LIGATURE KAF WITH LAM MEDIAL=FORM",
   "ARABIC LIGATURE KAF WITH MEEM FINAL,ARABIC LIGATURE KAF WITH MEEM INITIAL=FORM",
   "ARABIC LIGATURE KAF WITH MEEM ISOLATED,ARABIC LIGATURE KAF WITH MEEM MEDIAL=FORM",
   "ARABIC LIGATURE KAF WITH MEEM WITH MEEM FINAL=FORM",
   "ARABIC LIGATURE KAF WITH MEEM WITH MEEM INITIAL=FORM",
   "ARABIC LIGATURE KAF WITH MEEM WITH YEH FINAL=FORM",
   "ARABIC LIGATURE KAF WITH YEH FINAL,ARABIC LIGATURE KAF WITH YEH ISOLATED=FORM",
   "ARABIC LIGATURE KHAH WITH ALEF MAKSURA FINAL=FORM",
   "ARABIC LIGATURE KHAH WITH ALEF MAKSURA ISOLATED=FORM",
   "ARABIC LIGATURE KHAH WITH HAH ISOLATED,ARABIC LIGATURE KHAH WITH JEEM INITIAL=FORM",
   "ARABIC LIGATURE KHAH WITH JEEM ISOLATED,ARABIC LIGATURE KHAH WITH MEEM INITIAL=FORM",
   "ARABIC LIGATURE KHAH WITH MEEM ISOLATED,ARABIC LIGATURE KHAH WITH YEH FINAL=FORM",
   "ARABIC LIGATURE KHAH WITH YEH ISOLATED,ARABIC LIGATURE LAM WITH ALEF FINAL=FORM",
   "ARABIC LIGATURE LAM WITH ALEF ISOLATED=FORM",
   "ARABIC LIGATURE LAM WITH ALEF MAKSURA FINAL=FORM",
   "ARABIC LIGATURE LAM WITH ALEF MAKSURA ISOLATED=FORM",
   "ARABIC LIGATURE LAM WITH ALEF WITH HAMZA ABOVE FINAL=FORM",
   "ARABIC LIGATURE LAM WITH ALEF WITH HAMZA ABOVE ISOLATED=FORM",
   "ARABIC LIGATURE LAM WITH ALEF WITH HAMZA BELOW FINAL=FORM",
   "ARABIC LIGATURE LAM WITH ALEF WITH HAMZA BELOW ISOLATED=FORM",
   "ARABIC LIGATURE LAM WITH ALEF WITH MADDA ABOVE FINAL=FORM",
   "ARABIC LIGATURE LAM WITH ALEF WITH MADDA ABOVE ISOLATED=FORM",
   "ARABIC LIGATURE LAM WITH HAH INITIAL,ARABIC LIGATURE LAM WITH HAH ISOLATED=FORM",
   "ARABIC LIGATURE LAM WITH HAH WITH ALEF MAKSURA FINAL=FORM",
   "ARABIC LIGATURE LAM WITH HAH WITH MEEM FINAL=FORM",
   "ARABIC LIGATURE LAM WITH HAH WITH MEEM INITIAL=FORM",
   "ARABIC LIGATURE LAM WITH HAH WITH YEH FINAL=FORM",
   "ARABIC LIGATURE LAM WITH HEH INITIAL,ARABIC LIGATURE LAM WITH JEEM INITIAL=FORM",
   "ARABIC LIGATURE LAM WITH JEEM ISOLATED=FORM",
   "ARABIC LIGATURE LAM WITH JEEM WITH JEEM FINAL=FORM",
   "ARABIC LIGATURE LAM WITH JEEM WITH JEEM INITIAL=FORM",
   "ARABIC LIGATURE LAM WITH JEEM WITH MEEM FINAL=FORM",
   "ARABIC LIGATURE LAM WITH JEEM WITH MEEM INITIAL=FORM",
   "ARABIC LIGATURE LAM WITH JEEM WITH YEH FINAL=FORM",
   "ARABIC LIGATURE LAM WITH KHAH INITIAL,ARABIC LIGATURE LAM WITH KHAH ISOLATED=FORM",
   "ARABIC LIGATURE LAM WITH KHAH WITH MEEM FINAL=FORM",
   "ARABIC LIGATURE LAM WITH KHAH WITH MEEM INITIAL=FORM",
   "ARABIC LIGATURE LAM WITH MEEM FINAL,ARABIC LIGATURE LAM WITH MEEM INITIAL=FORM",
   "ARABIC LIGATURE LAM WITH MEEM ISOLATED,ARABIC LIGATURE LAM WITH MEEM MEDIAL=FORM",
   "ARABIC LIGATURE LAM WITH MEEM WITH HAH FINAL=FORM",
   "ARABIC LIGATURE LAM WITH MEEM WITH HAH INITIAL=FORM",
   "ARABIC LIGATURE LAM WITH MEEM WITH YEH FINAL=FORM",
   "ARABIC LIGATURE LAM WITH YEH FINAL,ARABIC LIGATURE LAM WITH YEH ISOLATED=FORM",
   "ARABIC LIGATURE MEEM WITH ALEF FINAL=FORM",
   "ARABIC LIGATURE MEEM WITH ALEF MAKSURA ISOLATED=FORM",
   "ARABIC LIGATURE MEEM WITH HAH INITIAL,ARABIC LIGATURE MEEM WITH HAH ISOLATED=FORM",
   "ARABIC LIGATURE MEEM WITH HAH WITH JEEM INITIAL=FORM",
   "ARABIC LIGATURE MEEM WITH HAH WITH MEEM INITIAL=FORM",
   "ARABIC LIGATURE MEEM WITH HAH WITH YEH FINAL=FORM",
   "ARABIC LIGATURE MEEM WITH JEEM INITIAL,ARABIC LIGATURE MEEM WITH JEEM ISOLATED=FORM",
   "ARABIC LIGATURE MEEM WITH JEEM WITH HAH INITIAL=FORM",
   "ARABIC LIGATURE MEEM WITH JEEM WITH KHAH INITIAL=FORM",
   "ARABIC LIGATURE MEEM WITH JEEM WITH MEEM INITIAL=FORM",
   "ARABIC LIGATURE MEEM WITH JEEM WITH YEH FINAL=FORM",
   "ARABIC LIGATURE MEEM WITH KHAH INITIAL,ARABIC LIGATURE MEEM WITH KHAH ISOLATED=FORM",
   "ARABIC LIGATURE MEEM WITH KHAH WITH JEEM INITIAL=FORM",
   "ARABIC LIGATURE MEEM WITH KHAH WITH MEEM INITIAL=FORM",
   "ARABIC LIGATURE MEEM WITH KHAH WITH YEH FINAL=FORM",
   "ARABIC LIGATURE MEEM WITH MEEM FINAL,ARABIC LIGATURE MEEM WITH MEEM INITIAL=FORM",
   "ARABIC LIGATURE MEEM WITH MEEM ISOLATED=FORM",
   "ARABIC LIGATURE MEEM WITH MEEM WITH YEH FINAL=FORM",
   "ARABIC LIGATURE MEEM WITH YEH ISOLATED,ARABIC LIGATURE MOHAMMAD ISOLATED=FORM",
   "ARABIC LIGATURE NOON WITH ALEF MAKSURA FINAL=FORM",
   "ARABIC LIGATURE NOON WITH ALEF MAKSURA ISOLATED=FORM",
   "ARABIC LIGATURE NOON WITH HAH INITIAL,ARABIC LIGATURE NOON WITH HAH ISOLATED=FORM",
   "ARABIC LIGATURE NOON WITH HAH WITH ALEF MAKSURA FINAL=FORM",
   "ARABIC LIGATURE NOON WITH HAH WITH MEEM INITIAL=FORM",
   "ARABIC LIGATURE NOON WITH HAH WITH YEH FINAL=FORM",
   "ARABIC LIGATURE NOON WITH HEH INITIAL,ARABIC LIGATURE NOON WITH HEH MEDIAL=FORM",
   "ARABIC LIGATURE NOON WITH JEEM INITIAL,ARABIC LIGATURE NOON WITH JEEM ISOLATED=FORM",
   "ARABIC LIGATURE NOON WITH JEEM WITH ALEF MAKSURA FINAL=FORM",
   "ARABIC LIGATURE NOON WITH JEEM WITH HAH FINAL=FORM",
   "ARABIC LIGATURE NOON WITH JEEM WITH HAH INITIAL=FORM",
   "ARABIC LIGATURE NOON WITH JEEM WITH MEEM FINAL=FORM",
   "ARABIC LIGATURE NOON WITH JEEM WITH MEEM INITIAL=FORM",
   "ARABIC LIGATURE NOON WITH JEEM WITH YEH FINAL=FORM",
   "ARABIC LIGATURE NOON WITH KHAH INITIAL,ARABIC LIGATURE NOON WITH KHAH ISOLATED=FORM",
   "ARABIC LIGATURE NOON WITH MEEM FINAL,ARABIC LIGATURE NOON WITH MEEM INITIAL=FORM",
   "ARABIC LIGATURE NOON WITH MEEM ISOLATED,ARABIC LIGATURE NOON WITH MEEM MEDIAL=FORM",
   "ARABIC LIGATURE NOON WITH MEEM WITH ALEF MAKSURA FINAL=FORM",
   "ARABIC LIGATURE NOON WITH MEEM WITH YEH FINAL=FORM",
   "ARABIC LIGATURE NOON WITH NOON FINAL,ARABIC LIGATURE NOON WITH REH FINAL=FORM",
   "ARABIC LIGATURE NOON WITH YEH FINAL,ARABIC LIGATURE NOON WITH YEH ISOLATED=FORM",
   "ARABIC LIGATURE NOON WITH ZAIN FINAL=FORM",
   "ARABIC LIGATURE QAF WITH ALEF MAKSURA FINAL=FORM",
   "ARABIC LIGATURE QAF WITH ALEF MAKSURA ISOLATED=FORM",
   "ARABIC LIGATURE QAF WITH HAH INITIAL,ARABIC LIGATURE QAF WITH HAH ISOLATED=FORM",
   "ARABIC LIGATURE QAF WITH MEEM INITIAL,ARABIC LIGATURE QAF WITH MEEM ISOLATED=FORM",
   "ARABIC LIGATURE QAF WITH MEEM WITH HAH FINAL=FORM",
   "ARABIC LIGATURE QAF WITH MEEM WITH HAH INITIAL=FORM",
   "ARABIC LIGATURE QAF WITH MEEM WITH MEEM FINAL=FORM",
   "ARABIC LIGATURE QAF WITH MEEM WITH YEH FINAL=FORM",
   "ARABIC LIGATURE QAF WITH YEH FINAL,ARABIC LIGATURE QAF WITH YEH ISOLATED=FORM",
   "ARABIC LIGATURE QALA USED AS KORANIC STOP SIGN ISOLATED=FORM",
   "ARABIC LIGATURE QUDDISA=SIRRAH",
   "ARABIC LIGATURE RADI ALLAAHU=ANH ANHAA ANHUM ANHUMAA ANHUNNA",
   "ARABIC LIGATURE RAHIMAHU,ARABIC LIGATURE RAHIMAHUM=ALLAAH",
   "ARABIC LIGATURE RASOUL ISOLATED=FORM",
   "ARABIC LIGATURE REH WITH SUPERSCRIPT ALEF ISOLATED=FORM",
   "ARABIC LIGATURE SAD WITH ALEF MAKSURA FINAL=FORM",
   "ARABIC LIGATURE SAD WITH ALEF MAKSURA ISOLATED=FORM",
   "ARABIC LIGATURE SAD WITH HAH INITIAL,ARABIC LIGATURE SAD WITH HAH ISOLATED=FORM",
   "ARABIC LIGATURE SAD WITH HAH WITH HAH FINAL=FORM",
   "ARABIC LIGATURE SAD WITH HAH WITH HAH INITIAL=FORM",
   "ARABIC LIGATURE SAD WITH HAH WITH YEH FINAL=FORM",
   "ARABIC LIGATURE SAD WITH KHAH INITIAL,ARABIC LIGATURE SAD WITH MEEM INITIAL=FORM",
   "ARABIC LIGATURE SAD WITH MEEM ISOLATED=FORM",
   "ARABIC LIGATURE SAD WITH MEEM WITH MEEM FINAL=FORM",
   "ARABIC LIGATURE SAD WITH MEEM WITH MEEM INITIAL=FORM",
   "ARABIC LIGATURE SAD WITH REH FINAL,ARABIC LIGATURE SAD WITH REH ISOLATED=FORM",
   "ARABIC LIGATURE SAD WITH YEH FINAL,ARABIC LIGATURE SAD WITH YEH ISOLATED=FORM",
   "ARABIC LIGATURE SALAAMUHU=ALAYNAA",
   "ARABIC LIGATURE SALAM ISOLATED,ARABIC LIGATURE SALLA ISOLATED=FORM",
   "ARABIC LIGATURE SALLA USED AS KORANIC STOP SIGN ISOLATED=FORM",
   "ARABIC LIGATURE SALLALLAAHU ALAYHI=WA-AALIH",
   "ARABIC LIGATURE SALLALLAHOU ALAYHE=WASALLAM",
   "ARABIC LIGATURE SALLALLAHU ALAYHI WAAALIHEE=WA-SALLAM",
   "ARABIC LIGATURE SEEN WITH ALEF MAKSURA FINAL=FORM",
   "ARABIC LIGATURE SEEN WITH ALEF MAKSURA ISOLATED=FORM",
   "ARABIC LIGATURE SEEN WITH HAH INITIAL,ARABIC LIGATURE SEEN WITH HAH ISOLATED=FORM",
   "ARABIC LIGATURE SEEN WITH HAH MEDIAL=FORM",
   "ARABIC LIGATURE SEEN WITH HAH WITH JEEM INITIAL=FORM",
   "ARABIC LIGATURE SEEN WITH HEH INITIAL,ARABIC LIGATURE SEEN WITH HEH MEDIAL=FORM",
   "ARABIC LIGATURE SEEN WITH JEEM INITIAL,ARABIC LIGATURE SEEN WITH JEEM ISOLATED=FORM",
   "ARABIC LIGATURE SEEN WITH JEEM MEDIAL=FORM",
   "ARABIC LIGATURE SEEN WITH JEEM WITH ALEF MAKSURA FINAL=FORM",
   "ARABIC LIGATURE SEEN WITH JEEM WITH HAH INITIAL=FORM",
   "ARABIC LIGATURE SEEN WITH KHAH INITIAL,ARABIC LIGATURE SEEN WITH KHAH ISOLATED=FORM",
   "ARABIC LIGATURE SEEN WITH KHAH MEDIAL=FORM",
   "ARABIC LIGATURE SEEN WITH KHAH WITH ALEF MAKSURA FINAL=FORM",
   "ARABIC LIGATURE SEEN WITH KHAH WITH YEH FINAL=FORM",
   "ARABIC LIGATURE SEEN WITH MEEM INITIAL,ARABIC LIGATURE SEEN WITH MEEM ISOLATED=FORM",
   "ARABIC LIGATURE SEEN WITH MEEM MEDIAL=FORM",
   "ARABIC LIGATURE SEEN WITH MEEM WITH HAH FINAL=FORM",
   "ARABIC LIGATURE SEEN WITH MEEM WITH HAH INITIAL=FORM",
   "ARABIC LIGATURE SEEN WITH MEEM WITH JEEM INITIAL=FORM",
   "ARABIC LIGATURE SEEN WITH MEEM WITH MEEM FINAL=FORM",
   "ARABIC LIGATURE SEEN WITH MEEM WITH MEEM INITIAL=FORM",
   "ARABIC LIGATURE SEEN WITH REH FINAL,ARABIC LIGATURE SEEN WITH REH ISOLATED=FORM",
   "ARABIC LIGATURE SEEN WITH YEH FINAL,ARABIC LIGATURE SEEN WITH YEH ISOLATED=FORM",
   "ARABIC LIGATURE SHADDA WITH DAMMA ISOLATED=FORM",
   "ARABIC LIGATURE SHADDA WITH DAMMA MEDIAL=FORM",
   "ARABIC LIGATURE SHADDA WITH DAMMATAN ISOLATED=FORM",
   "ARABIC LIGATURE SHADDA WITH FATHA ISOLATED=FORM",
   "ARABIC LIGATURE SHADDA WITH FATHA MEDIAL=FORM",
   "ARABIC LIGATURE SHADDA WITH KASRA ISOLATED=FORM",
   "ARABIC LIGATURE SHADDA WITH KASRA MEDIAL=FORM",
   "ARABIC LIGATURE SHADDA WITH KASRATAN ISOLATED=FORM",
   "ARABIC LIGATURE SHADDA WITH SUPERSCRIPT ALEF ISOLATED=FORM",
   "ARABIC LIGATURE SHEEN WITH ALEF MAKSURA FINAL=FORM",
   "ARABIC LIGATURE SHEEN WITH ALEF MAKSURA ISOLATED=FORM",
   "ARABIC LIGATURE SHEEN WITH HAH FINAL,ARABIC LIGATURE SHEEN WITH HAH INITIAL=FORM",
   "ARABIC LIGATURE SHEEN WITH HAH ISOLATED,ARABIC LIGATURE SHEEN WITH HAH MEDIAL=FORM",
   "ARABIC LIGATURE SHEEN WITH HAH WITH MEEM FINAL=FORM",
   "ARABIC LIGATURE SHEEN WITH HAH WITH MEEM INITIAL=FORM",
   "ARABIC LIGATURE SHEEN WITH HAH WITH YEH FINAL=FORM",
   "ARABIC LIGATURE SHEEN WITH HEH INITIAL,ARABIC LIGATURE SHEEN WITH HEH MEDIAL=FORM",
   "ARABIC LIGATURE SHEEN WITH JEEM FINAL,ARABIC LIGATURE SHEEN WITH JEEM INITIAL=FORM",
   "ARABIC LIGATURE SHEEN WITH JEEM ISOLATED=FORM",
   "ARABIC LIGATURE SHEEN WITH JEEM MEDIAL=FORM",
   "ARABIC LIGATURE SHEEN WITH JEEM WITH YEH FINAL=FORM",
   "ARABIC LIGATURE SHEEN WITH KHAH FINAL,ARABIC LIGATURE SHEEN WITH KHAH INITIAL=FORM",
   "ARABIC LIGATURE SHEEN WITH KHAH ISOLATED=FORM",
   "ARABIC LIGATURE SHEEN WITH KHAH MEDIAL,ARABIC LIGATURE SHEEN WITH MEEM FINAL=FORM",
   "ARABIC LIGATURE SHEEN WITH MEEM INITIAL=FORM",
   "ARABIC LIGATURE SHEEN WITH MEEM ISOLATED=FORM",
   "ARABIC LIGATURE SHEEN WITH MEEM MEDIAL=FORM",
   "ARABIC LIGATURE SHEEN WITH MEEM WITH KHAH FINAL=FORM",
   "ARABIC LIGATURE SHEEN WITH MEEM WITH KHAH INITIAL=FORM",
   "ARABIC LIGATURE SHEEN WITH MEEM WITH MEEM FINAL=FORM",
   "ARABIC LIGATURE SHEEN WITH MEEM WITH MEEM INITIAL=FORM",
   "ARABIC LIGATURE SHEEN WITH REH FINAL,ARABIC LIGATURE SHEEN WITH REH ISOLATED=FORM",
   "ARABIC LIGATURE SHEEN WITH YEH FINAL,ARABIC LIGATURE SHEEN WITH YEH ISOLATED=FORM",
   "ARABIC LIGATURE SUBHAANAHU WA=TAAALAA",
   "ARABIC LIGATURE TABAARAKA=WA-TAAALAA",
   "ARABIC LIGATURE TAH WITH ALEF MAKSURA FINAL=FORM",
   "ARABIC LIGATURE TAH WITH ALEF MAKSURA ISOLATED=FORM",
   "ARABIC LIGATURE TAH WITH HAH INITIAL,ARABIC LIGATURE TAH WITH HAH ISOLATED=FORM",
   "ARABIC LIGATURE TAH WITH MEEM INITIAL,ARABIC LIGATURE TAH WITH MEEM ISOLATED=FORM",
   "ARABIC LIGATURE TAH WITH MEEM MEDIAL=FORM",
   "ARABIC LIGATURE TAH WITH MEEM WITH HAH FINAL=FORM",
   "ARABIC LIGATURE TAH WITH MEEM WITH HAH INITIAL=FORM",
   "ARABIC LIGATURE TAH WITH MEEM WITH MEEM INITIAL=FORM",
   "ARABIC LIGATURE TAH WITH MEEM WITH YEH FINAL=FORM",
   "ARABIC LIGATURE TAH WITH YEH FINAL,ARABIC LIGATURE TAH WITH YEH ISOLATED=FORM",
   "ARABIC LIGATURE TEH WITH ALEF MAKSURA FINAL=FORM",
   "ARABIC LIGATURE TEH WITH ALEF MAKSURA ISOLATED=FORM",
   "ARABIC LIGATURE TEH WITH HAH INITIAL,ARABIC LIGATURE TEH WITH HAH ISOLATED=FORM",
   "ARABIC LIGATURE TEH WITH HAH WITH JEEM FINAL=FORM",
   "ARABIC LIGATURE TEH WITH HAH WITH JEEM INITIAL=FORM",
   "ARABIC LIGATURE TEH WITH HAH WITH MEEM INITIAL=FORM",
   "ARABIC LIGATURE TEH WITH HEH INITIAL,ARABIC LIGATURE TEH WITH HEH MEDIAL=FORM",
   "ARABIC LIGATURE TEH WITH JEEM INITIAL,ARABIC LIGATURE TEH WITH JEEM ISOLATED=FORM",
   "ARABIC LIGATURE TEH WITH JEEM WITH ALEF MAKSURA FINAL=FORM",
   "ARABIC LIGATURE TEH WITH JEEM WITH MEEM INITIAL=FORM",
   "ARABIC LIGATURE TEH WITH JEEM WITH YEH FINAL=FORM",
   "ARABIC LIGATURE TEH WITH KHAH INITIAL,ARABIC LIGATURE TEH WITH KHAH ISOLATED=FORM",
   "ARABIC LIGATURE TEH WITH KHAH WITH ALEF MAKSURA FINAL=FORM",
   "ARABIC LIGATURE TEH WITH KHAH WITH MEEM INITIAL=FORM",
   "ARABIC LIGATURE TEH WITH KHAH WITH YEH FINAL=FORM",
   "ARABIC LIGATURE TEH WITH MEEM FINAL,ARABIC LIGATURE TEH WITH MEEM INITIAL=FORM",
   "ARABIC LIGATURE TEH WITH MEEM ISOLATED,ARABIC LIGATURE TEH WITH MEEM MEDIAL=FORM",
   "ARABIC LIGATURE TEH WITH MEEM WITH ALEF MAKSURA FINAL=FORM",
   "ARABIC LIGATURE TEH WITH MEEM WITH HAH INITIAL=FORM",
   "ARABIC LIGATURE TEH WITH MEEM WITH JEEM INITIAL=FORM",
   "ARABIC LIGATURE TEH WITH MEEM WITH KHAH INITIAL=FORM",
   "ARABIC LIGATURE TEH WITH MEEM WITH YEH FINAL=FORM",
   "ARABIC LIGATURE TEH WITH NOON FINAL,ARABIC LIGATURE TEH WITH REH FINAL=FORM",
   "ARABIC LIGATURE TEH WITH YEH FINAL,ARABIC LIGATURE TEH WITH YEH ISOLATED=FORM",
   "ARABIC LIGATURE TEH WITH ZAIN FINAL=FORM",
   "ARABIC LIGATURE THAL WITH SUPERSCRIPT ALEF ISOLATED=FORM",
   "ARABIC LIGATURE THEH WITH ALEF MAKSURA FINAL=FORM",
   "ARABIC LIGATURE THEH WITH ALEF MAKSURA ISOLATED=FORM",
   "ARABIC LIGATURE THEH WITH HEH MEDIAL,ARABIC LIGATURE THEH WITH JEEM ISOLATED=FORM",
   "ARABIC LIGATURE THEH WITH MEEM FINAL,ARABIC LIGATURE THEH WITH MEEM INITIAL=FORM",
   "ARABIC LIGATURE THEH WITH MEEM ISOLATED,ARABIC LIGATURE THEH WITH MEEM MEDIAL=FORM",
   "ARABIC LIGATURE THEH WITH NOON FINAL,ARABIC LIGATURE THEH WITH REH FINAL=FORM",
   "ARABIC LIGATURE THEH WITH YEH FINAL,ARABIC LIGATURE THEH WITH YEH ISOLATED=FORM",
   "ARABIC LIGATURE THEH WITH ZAIN FINAL=FORM",
   "ARABIC LIGATURE UIGHUR KIRGHIZ YEH WITH HAMZA ABOVE WITH ALEF MAKSURA FINAL=FORM",
   "ARABIC LIGATURE UIGHUR KIRGHIZ YEH WITH HAMZA ABOVE WITH ALEF MAKSURA INITIAL=FORM",
   "ARABIC LIGATURE UIGHUR KIRGHIZ YEH WITH HAMZA ABOVE WITH ALEF MAKSURA ISOLATED=FORM",
   "ARABIC LIGATURE WASALLAM ISOLATED,ARABIC LIGATURE YEH WITH ALEF MAKSURA FINAL=FORM",
   "ARABIC LIGATURE YEH WITH ALEF MAKSURA ISOLATED=FORM",
   "ARABIC LIGATURE YEH WITH HAH INITIAL,ARABIC LIGATURE YEH WITH HAH ISOLATED=FORM",
   "ARABIC LIGATURE YEH WITH HAH WITH YEH FINAL=FORM",
   "ARABIC LIGATURE YEH WITH HAMZA ABOVE WITH AE FINAL=FORM",
   "ARABIC LIGATURE YEH WITH HAMZA ABOVE WITH AE ISOLATED=FORM",
   "ARABIC LIGATURE YEH WITH HAMZA ABOVE WITH ALEF FINAL=FORM",
   "ARABIC LIGATURE YEH WITH HAMZA ABOVE WITH ALEF ISOLATED=FORM",
   "ARABIC LIGATURE YEH WITH HAMZA ABOVE WITH ALEF MAKSURA FINAL=FORM",
   "ARABIC LIGATURE YEH WITH HAMZA ABOVE WITH ALEF MAKSURA ISOLATED=FORM",
   "ARABIC LIGATURE YEH WITH HAMZA ABOVE WITH E FINAL=FORM",
   "ARABIC LIGATURE YEH WITH HAMZA ABOVE WITH E INITIAL=FORM",
   "ARABIC LIGATURE YEH WITH HAMZA ABOVE WITH E ISOLATED=FORM",
   "ARABIC LIGATURE YEH WITH HAMZA ABOVE WITH HAH INITIAL=FORM",
   "ARABIC LIGATURE YEH WITH HAMZA ABOVE WITH HAH ISOLATED=FORM",
   "ARABIC LIGATURE YEH WITH HAMZA ABOVE WITH HEH INITIAL=FORM",
   "ARABIC LIGATURE YEH WITH HAMZA ABOVE WITH HEH MEDIAL=FORM",
   "ARABIC LIGATURE YEH WITH HAMZA ABOVE WITH JEEM INITIAL=FORM",
   "ARABIC LIGATURE YEH WITH HAMZA ABOVE WITH JEEM ISOLATED=FORM",
   "ARABIC LIGATURE YEH WITH HAMZA ABOVE WITH KHAH INITIAL=FORM",
   "ARABIC LIGATURE YEH WITH HAMZA ABOVE WITH MEEM FINAL=FORM",
   "ARABIC LIGATURE YEH WITH HAMZA ABOVE WITH MEEM INITIAL=FORM",
   "ARABIC LIGATURE YEH WITH HAMZA ABOVE WITH MEEM ISOLATED=FORM",
   "ARABIC LIGATURE YEH WITH HAMZA ABOVE WITH MEEM MEDIAL=FORM",
   "ARABIC LIGATURE YEH WITH HAMZA ABOVE WITH NOON FINAL=FORM",
   "ARABIC LIGATURE YEH WITH HAMZA ABOVE WITH OE FINAL=FORM",
   "ARABIC LIGATURE YEH WITH HAMZA ABOVE WITH OE ISOLATED=FORM",
   "ARABIC LIGATURE YEH WITH HAMZA ABOVE WITH REH FINAL=FORM",
   "ARABIC LIGATURE YEH WITH HAMZA ABOVE WITH U FINAL=FORM",
   "ARABIC LIGATURE YEH WITH HAMZA ABOVE WITH U ISOLATED=FORM",
   "ARABIC LIGATURE YEH WITH HAMZA ABOVE WITH WAW FINAL=FORM",
   "ARABIC LIGATURE YEH WITH HAMZA ABOVE WITH WAW ISOLATED=FORM",
   "ARABIC LIGATURE YEH WITH HAMZA ABOVE WITH YEH FINAL=FORM",
   "ARABIC LIGATURE YEH WITH HAMZA ABOVE WITH YEH ISOLATED=FORM",
   "ARABIC LIGATURE YEH WITH HAMZA ABOVE WITH YU FINAL=FORM",
   "ARABIC LIGATURE YEH WITH HAMZA ABOVE WITH YU ISOLATED=FORM",
   "ARABIC LIGATURE YEH WITH HAMZA ABOVE WITH ZAIN FINAL=FORM",
   "ARABIC LIGATURE YEH WITH HEH INITIAL,ARABIC LIGATURE YEH WITH HEH MEDIAL=FORM",
   "ARABIC LIGATURE YEH WITH JEEM INITIAL,ARABIC LIGATURE YEH WITH JEEM ISOLATED=FORM",
   "ARABIC LIGATURE YEH WITH JEEM WITH YEH FINAL=FORM",
   "ARABIC LIGATURE YEH WITH KHAH INITIAL,ARABIC LIGATURE YEH WITH KHAH ISOLATED=FORM",
   "ARABIC LIGATURE YEH WITH MEEM FINAL,ARABIC LIGATURE YEH WITH MEEM INITIAL=FORM",
   "ARABIC LIGATURE YEH WITH MEEM ISOLATED,ARABIC LIGATURE YEH WITH MEEM MEDIAL=FORM",
   "ARABIC LIGATURE YEH WITH MEEM WITH MEEM FINAL=FORM",
   "ARABIC LIGATURE YEH WITH MEEM WITH MEEM INITIAL=FORM",
   "ARABIC LIGATURE YEH WITH MEEM WITH YEH FINAL=FORM",
   "ARABIC LIGATURE YEH WITH NOON FINAL,ARABIC LIGATURE YEH WITH REH FINAL=FORM",
   "ARABIC LIGATURE YEH WITH YEH FINAL,ARABIC LIGATURE YEH WITH YEH ISOLATED=FORM",
   "ARABIC LIGATURE YEH WITH ZAIN FINAL,ARABIC LIGATURE ZAH WITH MEEM INITIAL=FORM",
   "ARABIC LIGATURE ZAH WITH MEEM ISOLATED,ARABIC LIGATURE ZAH WITH MEEM MEDIAL=FORM",
   "ARABIC LIGATURE=JALLAJALALOUHOU",
   "ARABIC MADDA=WAAJIB",
   "ARABIC MATHEMATICAL DOTLESS=BEH FEH NOON QAF",
   "ARABIC MATHEMATICAL DOUBLE-STRUCK=AIN BEH DAD DAL FEH GHAIN HAH JEEM KHAH LAM MEEM NOON QAF",
   "ARABIC MATHEMATICAL DOUBLE-STRUCK=REH SAD SEEN SHEEN TAH TEH THAL THEH WAW YEH ZAH ZAIN",
   "ARABIC MATHEMATICAL INITIAL=AIN BEH DAD FEH GHAIN HAH HEH JEEM KAF KHAH LAM MEEM NOON QAF",
   "ARABIC MATHEMATICAL INITIAL=SAD SEEN SHEEN TEH THEH YEH",
   "ARABIC MATHEMATICAL LOOPED=AIN ALEF BEH DAD DAL FEH GHAIN HAH HEH JEEM KHAH LAM MEEM NOON",
   "ARABIC MATHEMATICAL LOOPED=QAF REH SAD SEEN SHEEN TAH TEH THAL THEH WAW YEH ZAH ZAIN",
   "ARABIC MATHEMATICAL OPERATOR HAH WITH=DAL",
   "ARABIC MATHEMATICAL OPERATOR MEEM WITH HAH WITH=TATWEEL",
   "ARABIC MATHEMATICAL STRETCHED DOTLESS=BEH FEH",
   "ARABIC MATHEMATICAL STRETCHED=AIN BEH DAD FEH GHAIN HAH HEH JEEM KAF KHAH MEEM NOON QAF SAD",
   "ARABIC MATHEMATICAL STRETCHED=SEEN SHEEN TAH TEH THEH YEH ZAH",
   "ARABIC MATHEMATICAL TAILED DOTLESS=NOON QAF",
   "ARABIC MATHEMATICAL TAILED=AIN DAD GHAIN HAH JEEM KHAH LAM NOON QAF SAD SEEN SHEEN YEH",
   "ARABIC MATHEMATICAL=AIN ALEF BEH DAD DAL FEH GHAIN HAH JEEM KAF KHAH LAM MEEM NOON QAF REH",
   "ARABIC MATHEMATICAL=SAD SEEN SHEEN TAH TEH THAL THEH WAW YEH ZAH ZAIN",
   "ARABIC OPEN=DAMMATAN FATHATAN KASRATAN",
   "ARABIC PIASTRE MARK,ARABIC POUND MARK,ARABIC SYMBOL WASLA=ABOVE",
   "ARABIC PLACE OF=SAJDAH",
   "ARABIC RIGHT ARROWHEAD ABOVE WITH,BRAHMI PUNCTUATION DOUBLE=DOT",
   "ARABIC RIGHT ARROWHEAD,ARABIC SYMBOL DOT,ARABIC SYMBOL FOUR DOTS=ABOVE BELOW",
   "ARABIC ROUNDED HIGH STOP WITH FILLED=CENTRE",
   "ARABIC SHADDA ISOLATED,ARABIC SHADDA MEDIAL,ARABIC SMALL HIGH MEEM INITIAL=FORM",
   "ARABIC SIGN ALAYHE=ASSALLAM",
   "ARABIC SIGN RADI ALLAHOU=ANHU",
   "ARABIC SIGN RAHMATULLAH=ALAYHE",
   "ARABIC SIGN SALLALLAHOU ALAYHE=WASSALLAM",
   "ARABIC SIGN SINDHI POSTPOSITION,MENDE KIKAKUI SYLLABLE M059=MEN",
   "ARABIC SIGN SINDHI=AMPERSAND",
   "ARABIC SIGN=MISRA SAFHA SAMVAT SANAH TAKHALLUS",
   "ARABIC SMALL HIGH DOTLESS HEAD OF=KHAH",
   "ARABIC SMALL HIGH LIGATURE ALEF WITH LAM WITH=YEH",
   "ARABIC SMALL HIGH LIGATURE QAF WITH LAM WITH ALEF=MAKSURA",
   "ARABIC SMALL HIGH LIGATURE SAD WITH LAM WITH ALEF=MAKSURA",
   "ARABIC SMALL HIGH MEEM ISOLATED,ARABIC SUKUN ISOLATED,ARABIC SUKUN MEDIAL=FORM",
   "ARABIC SMALL HIGH ROUNDED,ARABIC SMALL HIGH UPRIGHT RECTANGULAR=ZERO",
   "ARABIC SMALL HIGH SIGN=SAFHA",
   "ARABIC SMALL HIGH THREE,BLACK CIRCLE WITH TWO WHITE=DOTS",
   "ARABIC SMALL HIGH WORD=AL-JUZ AN-NISF AR-RUB AS-SAJDA ATH-THALATHA QIF SAH SAKTA WAQFA",
   "ARABIC SMALL HIGH YEH BARREE WITH TWO DOTS,ARABIC SUKUN=BELOW",
   "ARABIC SMALL HIGH=AIN JEEM MADDA NOON QAF SAD SEEN TAH WAW YEH ZAH ZAIN",
   "ARABIC SMALL LOW NOON WITH=KASRA",
   "ARABIC SMALL LOW WORD=IMAALA ISHMAAM TASHEEL",
   "ARABIC SMALL LOW=MEEM SEEN WAW",
   "ARABIC SMALL=DAMMA FATHA KASRA WAW YEH",
   "ARABIC START OF RUB EL=HIZB",
   "ARABIC SUBSCRIPT=ALEF",
   "ARABIC SUPERSCRIPT ALEF=MOKHASSAS",
   "ARABIC SYMBOL DOUBLE VERTICAL BAR,ARABIC TATWEEL WITH TWO DOTS=BELOW",
   "ARABIC SYMBOL SMALL TAH,ARABIC SYMBOL THREE DOTS=ABOVE BELOW",
   "ARABIC SYMBOL THREE DOTS POINTING DOWNWARDS,ARABIC SYMBOL TWO DOTS=ABOVE BELOW",
   "ARABIC SYMBOL TWO DOTS VERTICALLY,ARABIC TONE LOOP,ARABIC TONE ONE DOT=ABOVE BELOW",
   "ARABIC TAIL=FRAGMENT",
   "ARABIC TATWEEL WITH FATHATAN,ARABIC VOWEL SIGN INVERTED SMALL V=ABOVE",
   "ARABIC TATWEEL WITH OVERSTRUCK=HAMZA WAW",
   "ARABIC TONE TWO DOTS,COMBINING ALMOST EQUAL TO,COMBINING ASTERISK=ABOVE BELOW",
   "ARABIC TRIPLE DOT PUNCTUATION,ARMENIAN ABBREVIATION,ARMENIAN EMPHASIS=MARK",
   "ARABIC TURNED DAMMA,ARABIC VOWEL SIGN DOT,ARABIC WAVY HAMZA=BELOW",
   "ARABIC VOWEL SIGN SMALL V,BACK WITH LEFTWARDS ARROW=ABOVE",
   "ARABIC-INDIC CUBE,ARABIC-INDIC FOURTH,CUBE,FOURTH=ROOT",
   "ARABIC-INDIC PER MILLE,ARABIC-INDIC PER TEN THOUSAND,ARMENIAN DRAM,AUSTRAL=SIGN",
   "ARABIC=COMMA DAMMA DAMMATAN FATHA FATHATAN KASRA KASRATAN RAY SEMICOLON SHADDA SUKUN TATWEEL",
   "ARABIC=ZWARAKAY",
   "ARMENIAN CAPITAL LETTER,ARMENIAN SMALL LETTER=AYB BEN CA CHA CHEH CO DA ECH EH ET FEH GHAD",
   "ARMENIAN CAPITAL LETTER,ARMENIAN SMALL LETTER=GIM HO INI JA JHEH KEH KEN LIWN MEN NOW OH PEH",
   "ARMENIAN CAPITAL LETTER,ARMENIAN SMALL LETTER=PIWR RA REH SEH SHA TIWN TO VEW VO XEH YI YIWN",
   "ARMENIAN CAPITAL LETTER,ARMENIAN SMALL LETTER=ZA ZHE",
   "ARMENIAN EXCLAMATION,ARMENIAN QUESTION,AVESTAN ABBREVIATION,BAMUM QUESTION=MARK",
   "ARMENIAN MODIFIER LETTER LEFT HALF,BENZENE=RING",
   "ARMENIAN SMALL LETTER TURNED=AYB",
   "ARMENIAN SMALL LIGATURE ECH=YIWN",
   "ARMENIAN SMALL LIGATURE MEN=ECH INI NOW XEH",
   "ARMENIAN SMALL LIGATURE VEW=NOW",
   "ARMENIAN=APOSTROPHE COMMA HYPHEN",
   "ARROW POINTING DOWNWARDS THEN CURVING,DOWNWARDS ARROW WITH TIP=LEFTWARDS RIGHTWARDS",
   "ARROW POINTING RIGHTWARDS THEN CURVING SOUTH,ARROW POINTING UPWARDS THEN NORTH=WEST",
   "ARROW POINTING RIGHTWARDS THEN CURVING,ELEMENT OF OPENING=DOWNWARDS UPWARDS",
   "ARROWHEAD-SHAPED=POINTER",
   "ARTICULATED=LORRY",
   "ARTIST=PALETTE",
   "ASCENDING,DESCENDING=NODE",
   "ASTERISK,BULLET,CIRCLED ASTERISK,CIRCLED DOT,CIRCLED RING,DOUBLE SOLIDUS=OPERATOR",
   "ASTRONOMICAL SYMBOL FOR=URANUS",
   "ATHLETIC,FLAT,HIGH-HEELED,MANS=SHOE",
   "AUTO=RICKSHAW",
   "AUTOMATED TELLER,SLOT=MACHINE",
   "AVESTAN LETTER=A AA AAN AAO AE AEE AN AO BE BHE CE DE DHE E EE FE GE GGE GHE HE HME I II JE",
   "AVESTAN LETTER=KE LE ME NE NGE NGVE NGYE NNE NYE O OO PE RE SE SHE SHYE SSHE TE THE TTE U UU",
   "AVESTAN LETTER=VE XE XVE XYE YE YYE ZE ZHE"]

def rowsFromB : List String :=
  ["BABY=ANGEL BOTTLE CHICK SYMBOL",
   "BACK OF,INCOMING,PEN OVER STAMPED,RED GIFT,STAMPED=ENVELOPE",
   "BACK-TILTED SHADOWED WHITE RIGHTWARDS,BLACK CIRCLE WITH DOWN=ARROW",
   "BACKSLANTED SOUTH ARROW WITH HORIZONTAL,CYRILLIC CAPITAL LETTER EM WITH=TAIL",
   "BACTRIAN,DROMEDARY=CAMEL",
   "BADMINTON RACQUET AND=SHUTTLECOCK",
   "BAGGAGE=CLAIM",
   "BAGUETTE=BREAD",
   "BALINESE ADEG,JAVANESE PADA ADEG=ADEG",
   "BALINESE CARIK=PAMUNGKAH PAREREN SIKI",
   "BALINESE LETTER AKARA,BALINESE LETTER IKARA,BALINESE LETTER LA LENGA=TEDUNG",
   "BALINESE LETTER ARCHAIC=JNYA",
   "BALINESE LETTER ASYURA,BALINESE LETTER EF,BALINESE LETTER KAF=SASAK",
   "BALINESE LETTER BA=KEMBANG",
   "BALINESE LETTER CA=LACA",
   "BALINESE LETTER DA MURDA=ALPAPRANA MAHAPRANA",
   "BALINESE LETTER DA=MADU",
   "BALINESE LETTER GA=GORA",
   "BALINESE LETTER JA=JERA",
   "BALINESE LETTER KA,BALINESE LETTER TA MURDA,JAVANESE LETTER DA=MAHAPRANA",
   "BALINESE LETTER KHOT,BALINESE LETTER TZIR,BALINESE LETTER VE=SASAK",
   "BALINESE LETTER LA,BALINESE VOWEL SIGN LA=LENGA",
   "BALINESE LETTER NA=RAMBAT",
   "BALINESE LETTER OKARA,BALINESE LETTER RA REPA,BALINESE LETTER UKARA=TEDUNG",
   "BALINESE LETTER PA=KAPAL",
   "BALINESE LETTER RA,BALINESE VOWEL SIGN RA=REPA",
   "BALINESE LETTER SA=SAGA SAPA",
   "BALINESE LETTER TA=LATIK TAWA",
   "BALINESE LETTER ZAL=SASAK",
   "BALINESE LETTER=AIKARA AKARA BA CA DA EKARA GA HA IKARA JA KA LA MA NA NGA NYA OKARA PA RA",
   "BALINESE LETTER=SA TA UKARA WA YA",
   "BALINESE MUSICAL SYMBOL COMBINING KEMPLI WITH=JEGOGAN",
   "BALINESE MUSICAL SYMBOL COMBINING KEMPUL WITH=JEGOGAN",
   "BALINESE MUSICAL SYMBOL COMBINING=BENDE ENDEP GONG JEGOGAN KEMPLI KEMPUL TEGEH",
   "BALINESE MUSICAL SYMBOL DANG=GEDE SURANG",
   "BALINESE MUSICAL SYMBOL LEFT-HAND CLOSED=PLAK PLUK",
   "BALINESE MUSICAL SYMBOL LEFT-HAND OPEN=PANG PING PUNG",
   "BALINESE MUSICAL SYMBOL RIGHT-HAND CLOSED=TAK TUK",
   "BALINESE MUSICAL SYMBOL RIGHT-HAND OPEN=DAG DUG",
   "BALINESE MUSICAL SYMBOL=DAENG DAING DANG DENG DEUNG DING DONG DUNG",
   "BALINESE PAMADA,BALINESE PANTI=LANTANG",
   "BALINESE SIGN ULU=CANDRA RICEM",
   "BALINESE SIGN=BISAH CECEK REREKAN SURANG",
   "BALINESE VOWEL SIGN LA LENGA,BALINESE VOWEL SIGN PEPET=TEDUNG",
   "BALINESE VOWEL SIGN RA REPA,BALINESE VOWEL SIGN TALING REPA=TEDUNG",
   "BALINESE VOWEL SIGN SUKU=ILUT",
   "BALINESE VOWEL SIGN TALING=REPA TEDUNG",
   "BALINESE VOWEL SIGN ULU=SARI",
   "BALINESE VOWEL SIGN=PEPET SUKU TALING TEDUNG ULU",
   "BALINESE=PAMADA PAMENENG PANTI WINDU",
   "BALL OF=YARN",
   "BALLET=SHOES",
   "BALLOON-SPOKED,BOLD EIGHT SPOKED,BOLD FIVE SPOKED,BOLD SIX SPOKED=ASTERISK",
   "BALLOT BOLD SCRIPT,BALLOT BOX WITH BOLD SCRIPT,BALLOT BOX WITH LIGHT=X",
   "BALLOT BOX WITH BOLD,OCR AMOUNT OF=CHECK",
   "BALLOT BOX WITH SCRIPT,BALLOT SCRIPT,BLACK DIAMOND MINUS WHITE,CANCELLATION=X",
   "BALLOT BOX WITH=BALLOT CHECK X",
   "BALLOT=BOX X",
   "BAMUM COMBINING MARK=KOQNDON TUKWENTIS",
   "BAMUM FULL,BASSA VAH FULL,BLACK SQUARE FOR,BUS,CANADIAN SYLLABICS FULL=STOP",
   "BAMUM LETTER PHASE-A GBIEE=FON",
   "BAMUM LETTER PHASE-A LET=KUT",
   "BAMUM LETTER PHASE-A MAP=PIEET",
   "BAMUM LETTER PHASE-A MON=NGGEUAET",
   "BAMUM LETTER PHASE-A NAA,BAMUM LETTER PHASE-A NGKUE,BAMUM LETTER PHASE-A NZA=MFON",
   "BAMUM LETTER PHASE-A NDA,BAMUM LETTER PHASE-A PA,BAMUM LETTER PHASE-B YAFU=LEERAEWA",
   "BAMUM LETTER PHASE-A NTAP=MFAA NTAA",
   "BAMUM LETTER PHASE-A NYIT=MONGKEUAEQ",
   "BAMUM LETTER PHASE-A NZUN=MEUT",
   "BAMUM LETTER PHASE-A PON MFON,BAMUM LETTER PHASE-A PON PA NJI=PIPAEMBA PIPAEMGBIEE",
   "BAMUM LETTER PHASE-A SHINDA PA=NJI",
   "BAMUM LETTER PHASE-A SHOQ NSHUT=YUM",
   "BAMUM LETTER PHASE-A TITA=MFON",
   "BAMUM LETTER PHASE-A TU,BAMUM LETTER PHASE-C NGKUE=MAEMBA",
   "BAMUM LETTER PHASE-A U YUQ=NAE",
   "BAMUM LETTER PHASE-A=FIRI GHEUAEGHEUAE GHEUAERAE KAFA KAQ KET KEUKEUTNDA KPOQ KUOQ LAPAQ",
   "BAMUM LETTER PHASE-A=LOMMAE LU LUAEP MAEKEUP MAEM MAEMBGBIEE MAEMKPEN MAEMVEUX MAENYI MAESI",
   "BAMUM LETTER PHASE-A=MANSUAE MBANYI MBAQ MEUNJOMNDEUQ MGBASA MOOMEUT MOOMPUQ MVEUAENGAM NAQ",
   "BAMUM LETTER PHASE-A=NDAANGGEUAET NEN NGANGU NGGEN NGKUENZEUM NIKA NJAM NKAARAE NKINDI NSHA",
   "BAMUM LETTER PHASE-A=NSHIEE NTAP NTOQPEN NYET NYI PAAM PAARAE PAMSHAE PASHAE PET PUP ROM",
   "BAMUM LETTER PHASE-A=SEUNYAM SHIRAE SHUENSHUET SHUM SISA SONJAM SOQ SOT SUU TEUAEN TEUTEUWEN",
   "BAMUM LETTER PHASE-A=TUAEP UNKNOWN VEE",
   "BAMUM LETTER PHASE-B LAM NSHUT,BAMUM LETTER PHASE-C NGGUAEN=NYAM",
   "BAMUM LETTER PHASE-B LOM,BAMUM LETTER PHASE-B NYI,BAMUM LETTER PHASE-E TAEN=NTEUM",
   "BAMUM LETTER PHASE-B MA=NJEUAENA NJUQA",
   "BAMUM LETTER PHASE-B MBA=MAELEE",
   "BAMUM LETTER PHASE-B MBIT=MBAAKET",
   "BAMUM LETTER PHASE-B MEUT=NGGEET",
   "BAMUM LETTER PHASE-B MFON=TEUAEQ",
   "BAMUM LETTER PHASE-B NDU=NJAA",
   "BAMUM LETTER PHASE-B NGGEU,MENDE KIKAKUI SYLLABLE M122=MBU",
   "BAMUM LETTER PHASE-B NGGUOQ=LARGE",
   "BAMUM LETTER PHASE-B NGKINDI=MVOP",
   "BAMUM LETTER PHASE-B NTIEE=SHEUOQ",
   "BAMUM LETTER PHASE-B SET,LINEAR B SYLLABLE B069,MENDE KIKAKUI SYLLABLE M024=TU",
   "BAMUM LETTER PHASE-B SHET=NJAQ",
   "BAMUM LETTER PHASE-B TU=MAEMGBIEE NSIEE",
   "BAMUM LETTER PHASE-B=FEE FEUX GHEUGHEN GHEUGHEUAEM KAM KEUAEM KEUPUQ KEUYEUX KIEEM KIQ",
   "BAMUM LETTER PHASE-B=LAANAE LET MA MBAARAE MBEURI MBUOQ MEUQ MFIYAQ MONTIEEN NGGAAM NGGUOQ",
   "BAMUM LETTER PHASE-B=NGOM NSEN NSHUET NYAEMAE PARUM PEESHI PIT PUNGAAM SAKEUAE SHEUAEQTU",
   "BAMUM LETTER PHASE-B=SIEE SUE TAAM VEUM WUAET YEURAE",
   "BAMUM LETTER PHASE-C KEN=FATIGUE LAW",
   "BAMUM LETTER PHASE-C KUOP=NKAARAE",
   "BAMUM LETTER PHASE-C MA=KEUAERI NSIEE",
   "BAMUM LETTER PHASE-C MBAA=CABBAGE-TREE PICKET",
   "BAMUM LETTER PHASE-C NSUOT=NGOM",
   "BAMUM LETTER PHASE-C NTU=MBIT",
   "BAMUM LETTER PHASE-C NYIR MKPARAQ=MEUN",
   "BAMUM LETTER PHASE-C TITA=YUE",
   "BAMUM LETTER PHASE-C YU=MUOMAE",
   "BAMUM LETTER PHASE-C=BUNG FUE GBAYI GHAP GHARAE KAA KET KEUKAQ KEUM KEUSEUX KEUSHEUAEP",
   "BAMUM LETTER PHASE-C=KPARAQ KUT LAM LAP LIQ LU MAEMBA MAESI MBANYI MBEEKEET MBERAE MBEUM",
   "BAMUM LETTER PHASE-C=MBEUX MBI MBIRIEEN MBIT MBUAEM MBUE MGBASAQ MIEE MUAE NANSANAQ NAQ NDAM",
   "BAMUM LETTER PHASE-C=NDAP NDEUAEREE NDEUT NDIDA NDOMBU NGAQ NGGEN NGGU NGGUEET NGGUM NGGUON",
   "BAMUM LETTER PHASE-C=NGKAQ NGOM NJAEM NJAM NJEEEE NJEUX NJUEQ NSA NSEUAEN NSHAQ NSOM NSUN",
   "BAMUM LETTER PHASE-C=NTAA NTEN NTEUNGBA NZA NZEUM PEN PIN PIRIEEN RU SETFON SEUX SHIQ SHUEQ",
   "BAMUM LETTER PHASE-C=SUAET TAASHAE TET TEUTEUX TITUAEP VEUAEPEN VEUX WANGKUOQ WUP YAA YEUQ",
   "BAMUM LETTER PHASE-C=YUM YUWOQ",
   "BAMUM LETTER PHASE-D KEUOT=MBUAE",
   "BAMUM LETTER PHASE-D MBAA=SEVEN",
   "BAMUM LETTER PHASE-D REN=MUCH OLD",
   "BAMUM LETTER PHASE-D=FAA FEUFEUAET GHAA GHEUAE KET KEUAETMEUN KEUM KEUP KU KUN KUOM KUQ",
   "BAMUM LETTER PHASE-D=KWAET KYEE LEEEE LET LEUAEP LEUM LIEE LOQ LUM M MAENJET MALEERI MBAA",
   "BAMUM LETTER PHASE-D=MBUO MEEEE MEUN MEUT MFEUAE MFEUT MFIEE MFO MFON MGBEUN MGBIEE MGBOFUM",
   "BAMUM LETTER PHASE-D=MONI MU MVOP NDAM NDEE NDEUX NDON NGGAAM NGGAAMAE NGGAP NGGEUX NGGUOM",
   "BAMUM LETTER PHASE-D=NGGWAEN NGKAP NGKEUAEQ NGKEURI NGKIEE NGKUN NGKYEE NI NJAP NJEUAEM",
   "BAMUM LETTER PHASE-D=NJEUT NJI NJIEE NJUEQ NSHEE NSHUT NSIEEP NSIEET NSUM NTEE NTEUM NTUU NU",
   "BAMUM LETTER PHASE-D=NYAM NYET NYI NYUE PAP PEE PEUTAE PIP PUQ PUUT RAEM RII SAP SAQ SEUAEQ",
   "BAMUM LETTER PHASE-D=SHEE SHEUAE SHEUX SHII SHOQ SHU SOT SUAE SUE SUU TAE TEEEE TEUAEN TEUN",
   "BAMUM LETTER PHASE-D=TEUT TI TOQ TU TUOT WAP WUAEN YAEMMAE YEN YUOM YUOP YUWOQ",
   "BAMUM LETTER PHASE-E FU=CALL I REMEDY",
   "BAMUM LETTER PHASE-E NDAA MY=HOUSE",
   "BAMUM LETTER PHASE-E NDAA=SOFTNESS",
   "BAMUM LETTER PHASE-E NGGUAESHAE=NYAM",
   "BAMUM LETTER PHASE-E NJEE=EPOCH",
   "BAMUM LETTER PHASE-E NYI=BETWEEN CLEAVER",
   "BAMUM LETTER PHASE-E PA=PEOPLE PLURAL",
   "BAMUM LETTER PHASE-E YOQ=COVER SWIMMING",
   "BAMUM LETTER PHASE-E=A FA FAQ FEE FOM FUE FUET GBET GBEUX GHAAMAE GHET GHEUAE GHEUN GHEUX",
   "BAMUM LETTER PHASE-E=GHOM I KET KEUAE KEUX KI KO KPEUX KUET KUOP KUT LAAM LAP LAQ LEUAEM LOM",
   "BAMUM LETTER PHASE-E=LOON LOOT LOQ LU MA MAE MAEM MAP MAQ MBEE MBEUM MEN MFEUQ MGBA MGBEN MI",
   "BAMUM LETTER PHASE-E=MIEE MON MUAE MVI NA NAE NDAP NDIAQ NDIQ NDUN NGA NGEUREUT NGGEEEE",
   "BAMUM LETTER PHASE-E=NGGEUAE NGGEUAET NGGUP NGGURAE NGKA NGKAAMI NGKEUAEM NGKEUX NGKUM NGKUP",
   "BAMUM LETTER PHASE-E=NGOP NGOQ NGUAE NGUAET NJAEMLI NJEE NJEUX NKOM NSHIEE NSHUE NSHUOP NTAP",
   "BAMUM LETTER PHASE-E=NTUM NZAQ NZUQ O PAA PAAM PEEM PEUT PEUX PI PIEEQ PIET PO POON PU PUAE",
   "BAMUM LETTER PHASE-E=PUAQ PUE PUM RAE RAQ REUX RIMGBA SAA SEE SET SHEUAEQ SHIQ SHO SHOQ SOM",
   "BAMUM LETTER PHASE-E=SUAEN TAA TAAQ TAM TAQ TEN TEU TEUAEQ TOO TOON TOQ TUAE TUM TUMAE VEE",
   "BAMUM LETTER PHASE-E=VEUAE VOM WEUX WUE WUO YAP YEUAE YEUAET YEUM YEUX YIEE YIT YUAEN YUEQ",
   "BAMUM LETTER PHASE-E=YUN YUQ",
   "BAMUM LETTER PHASE-F=EE FOM KA KEN KET KO KPA KU KYEE LA LI LOQ M MA MBAA MBEN MEEEE MO NDAA",
   "BAMUM LETTER PHASE-F=NGGA NGKWAEN NI NJAEM NJUAE NSHA NTEE NU NUAE NYI PEE PEUX PUAE REE REN",
   "BAMUM LETTER PHASE-F=REUX RIEE RII RU SAMBA SEUX SHII SHO SHU SI SUU TAA TAE TET U VUEQ WA",
   "BAMUM LETTER PHASE-F=WUE YA YOQ",
   "BAMUM LETTER=A EE FAAMAE FEE FOM FU I KA KEN KET KEUX KI KO KOGHOM KOVUU KPA KU KYEE LA",
   "BAMUM LETTER=LEEEE LI LOQ LU M MA MBAA MBEN MEEEE MEN MI MO MU NA NDAA NGA NGGA NGKWAEN NI",
   "BAMUM LETTER=NJAEM NJEE NJUAE NSHA NTEE NTUU NU NUAE NYI O PA PEE PEUX PI PUAE PUE RAE REE",
   "BAMUM LETTER=REN REUX RIEE RII RU SAMBA SEUX SHEUX SHII SHO SHU SI SUU TAA TAE TEN TET TI U",
   "BAMUM LETTER=WA WUE YA YOQ YUQ",
   "BAMUM=COLON COMMA NJAEMLI SEMICOLON",
   "BANKNOTE WITH DOLLAR,BANKNOTE WITH EURO,BANKNOTE WITH POUND,BANKNOTE WITH YEN=SIGN",
   "BAR OF=SOAP",
   "BAR,STOCK=CHART",
   "BARBER,LINE INTEGRATION NOT INCLUDING THE=POLE",
   "BASKETBALL AND=HOOP",
   "BASSA VAH COMBINING HIGH,BASSA VAH COMBINING HIGH-LOW,BASSA VAH COMBINING LOW=TONE",
   "BASSA VAH COMBINING LOW-MID,BASSA VAH COMBINING MID,MODIFIER LETTER BEGIN HIGH=TONE",
   "BASSA VAH LETTER=A BA CE DHII DO E EE ENNI FA GAH GBU HWAH I JO KA KPAH MBE O OO PA SE TO U",
   "BASSA VAH LETTER=UWU VU WA WADDA YEIN YIE ZO",
   "BATAK CONSONANT SIGN=H NG",
   "BATAK LETTER KARO,CUNEIFORM SIGN LAK-449 TIMES U2 PLUS=BA",
   "BATAK LETTER MANDAILING=HA NA SA",
   "BATAK LETTER NORTHERN,BATAK LETTER SOUTHERN,BENGALI LETTER KHANDA=TA",
   "BATAK LETTER PAKPAK,LINEAR B SYLLABLE B054,MENDE KIKAKUI SYLLABLE M005=WA",
   "BATAK LETTER SIMALUNGUN=A GA HA LA MA PA RA SA WA YA",
   "BATAK LETTER=A BA CA DA GA HA I JA LA MA MBA NA NDA NGA NYA PA RA SA U WA YA",
   "BATAK SIGN=TOMPI",
   "BATAK SYMBOL BINDU NA=METEK",
   "BATAK SYMBOL BINDU=JUDUL PANGOLAT PINARBORAS",
   "BATAK VOWEL SIGN KARO=I O",
   "BATAK VOWEL SIGN PAKPAK,CUNEIFORM SIGN NI TIMES,DEVANAGARI VOWEL SIGN CANDRA LONG=E",
   "BATAK VOWEL SIGN U FOR SIMALUNGUN,LINEAR B SYLLABLE B031=SA",
   "BATAK VOWEL SIGN=E EE I O U",
   "BATAK=PANGOLAT PANONGONAN",
   "BEACH WITH=UMBRELLA",
   "BEAMED ASCENDING MUSICAL,BEAMED DESCENDING MUSICAL,BEAMED EIGHTH=NOTES",
   "BEAMED SIXTEENTH,MULTIPLE MUSICAL=NOTES",
   "BEARDED,DEAF,INFORMATION DESK,KNEELING,STANDING=PERSON",
   "BEER=MUG",
   "BELL WITH CANCELLATION,BOX DRAWINGS LIGHT HORIZONTAL WITH VERTICAL=STROKE",
   "BELL=PEPPER SYMBOL",
   "BELLHOP,RINGING=BELL",
   "BENGALI ABBREVIATION,BIOHAZARD,BITCOIN,CANADIAN SYLLABICS CHI,CAUTION,CEDI=SIGN",
   "BENGALI AU LENGTH,BENGALI GANDA,BENGALI SANDHI,BHAIKSUKI HUNDREDS UNIT=MARK",
   "BENGALI CURRENCY DENOMINATOR=SIXTEEN",
   "BENGALI CURRENCY NUMERATOR ONE LESS THAN THE=DENOMINATOR",
   "BENGALI CURRENCY NUMERATOR,CJK RADICAL LAME,CJK RADICAL NET=FOUR ONE THREE TWO",
   "BENGALI LETTER RA WITH LOWER,BENGALI LETTER RA WITH MIDDLE=DIAGONAL",
   "BENGALI LETTER VEDIC,GRANTHA LETTER VEDIC,GRANTHA LETTER VEDIC DOUBLE=ANUSVARA",
   "BENGALI LETTER VOCALIC,BENGALI VOWEL SIGN VOCALIC,BRAHMI LETTER VOCALIC=L LL R RR",
   "BENGALI LETTER=A AA AI AU BA BHA CA CHA DA DDA DDHA DHA E GA GHA HA I II JA JHA KA KHA LA MA",
   "BENGALI LETTER=NA NGA NNA NYA O PA PHA RA RHA RRA SA SHA SSA TA THA TTA TTHA U UU YA YYA",
   "BENGALI RUPEE=MARK SIGN",
   "BENGALI SIGN,TIRHUTA SIGN=ANUSVARA AVAGRAHA CANDRABINDU NUKTA VIRAMA VISARGA",
   "BENGALI VOWEL SIGN,BHAIKSUKI VOWEL SIGN,BRAHMI VOWEL SIGN,DOGRA VOWEL SIGN=AA AI AU E I II O",
   "BENGALI VOWEL SIGN,BHAIKSUKI VOWEL SIGN,BRAHMI VOWEL SIGN,DOGRA VOWEL SIGN=U UU",
   "BENGALI=ANJI ISSHAR",
   "BENT ARROW POINTING DOWNWARDS THEN NORTH=EAST",
   "BENTO,BEVERAGE,CARD FILE,KANGXI RADICAL DOWN,KANGXI RADICAL OPEN=BOX",
   "BENZENE RING WITH,BOTTOM HALF BLACK,HALFWIDTH WHITE,HEAVY LARGE=CIRCLE",
   "BHAIKSUKI DIGIT,BRAHMI DIGIT,CHAKMA DIGIT,CHAM DIGIT,CIRCLED DIGIT=EIGHT FIVE FOUR NINE ONE",
   "BHAIKSUKI DIGIT,BRAHMI DIGIT,CHAKMA DIGIT,CHAM DIGIT,CIRCLED DIGIT=SEVEN SIX THREE TWO ZERO",
   "BHAIKSUKI GAP=FILLER-1 FILLER-2",
   "BHAIKSUKI LETTER VOCALIC,BHAIKSUKI VOWEL SIGN VOCALIC=L R RR",
   "BHAIKSUKI LETTER,SIDDHAM LETTER,TIRHUTA LETTER=A AA AI AU BA BHA CA CHA DA DDA DDHA DHA E GA",
   "BHAIKSUKI LETTER,SIDDHAM LETTER,TIRHUTA LETTER=GHA HA I II JA JHA KA KHA LA MA NA NGA NNA",
   "BHAIKSUKI LETTER,SIDDHAM LETTER,TIRHUTA LETTER=NYA O PA PHA RA SA SHA SSA TA THA TTA TTHA U",
   "BHAIKSUKI LETTER,SIDDHAM LETTER,TIRHUTA LETTER=UU VA YA",
   "BHAIKSUKI SIGN=ANUSVARA AVAGRAHA CANDRABINDU VIRAMA VISARGA",
   "BHAIKSUKI,BHAIKSUKI DOUBLE,BRAHMI DOUBLE,CHAKMA DOUBLE=DANDA",
   "BIG,BIG REVERSE,CIRCLED REVERSE,FULLWIDTH REVERSE,SMALL REVERSE=SOLIDUS",
   "BILLED,GRADUATION=CAP",
   "BIRTHDAY,MOON=CAKE",
   "BITING=LIP",
   "BLACK CHESS BISHOP ROTATED NINETY=DEGREES",
   "BLACK CHESS BISHOP ROTATED TWO HUNDRED SEVENTY=DEGREES",
   "BLACK CHESS EQUIHOPPER ROTATED NINETY,BLACK CHESS KING ROTATED NINETY=DEGREES",
   "BLACK CHESS KING ROTATED TWO HUNDRED SEVENTY=DEGREES",
   "BLACK CHESS KNIGHT ROTATED FORTY-FIVE,BLACK CHESS KNIGHT ROTATED NINETY=DEGREES",
   "BLACK CHESS KNIGHT ROTATED ONE HUNDRED THIRTY-FIVE=DEGREES",
   "BLACK CHESS KNIGHT ROTATED THREE HUNDRED FIFTEEN=DEGREES",
   "BLACK CHESS KNIGHT ROTATED TWO HUNDRED SEVENTY=DEGREES",
   "BLACK CHESS KNIGHT ROTATED TWO HUNDRED TWENTY-FIVE=DEGREES",
   "BLACK CHESS PAWN ROTATED NINETY=DEGREES",
   "BLACK CHESS PAWN ROTATED TWO HUNDRED SEVENTY=DEGREES",
   "BLACK CHESS QUEEN ROTATED NINETY=DEGREES",
   "BLACK CHESS QUEEN ROTATED TWO HUNDRED SEVENTY=DEGREES",
   "BLACK CHESS ROOK ROTATED NINETY=DEGREES",
   "BLACK CHESS ROOK ROTATED TWO HUNDRED SEVENTY=DEGREES",
   "BLACK CHESS TURNED,NEUTRAL CHESS TURNED,WHITE CHESS TURNED=BISHOP KING KNIGHT PAWN QUEEN",
   "BLACK CHESS TURNED,NEUTRAL CHESS TURNED,WHITE CHESS TURNED=ROOK",
   "BLACK CHESS,WHITE CHESS=BISHOP EQUIHOPPER KING KNIGHT KNIGHT-BISHOP KNIGHT-QUEEN KNIGHT-ROOK",
   "BLACK CHESS,WHITE CHESS=PAWN QUEEN ROOK",
   "BLACK CIRCLE FOR=RECORD",
   "BLACK CIRCLE WITH WHITE DOT,BOX DRAWINGS HEAVY LEFT AND LIGHT=RIGHT",
   "BLACK CLUB,BLACK HEART,BLACK SPADE,WHITE CLUB,WHITE DIAMOND,WHITE HEART=SUIT",
   "BLACK CROSS ON=SHIELD",
   "BLACK CURVED DOWNWARDS AND LEFTWARDS,BLACK CURVED DOWNWARDS AND RIGHTWARDS=ARROW",
   "BLACK CURVED LEFTWARDS AND DOWNWARDS,BLACK CURVED LEFTWARDS AND UPWARDS=ARROW",
   "BLACK CURVED RIGHTWARDS AND DOWNWARDS,BLACK CURVED RIGHTWARDS AND UPWARDS=ARROW",
   "BLACK CURVED UPWARDS AND LEFTWARDS,BLACK CURVED UPWARDS AND RIGHTWARDS=ARROW",
   "BLACK DIAMOND ON,BOLD GREEK,CELTIC,DUPLOYAN SIGN O WITH,EAST SYRIAC=CROSS",
   "BLACK DIAMOND WITH DOWN,BLACK-FEATHERED NORTH EAST,BLACK-FEATHERED RIGHTWARDS=ARROW",
   "BLACK DIAMOND=CENTRED SUIT",
   "BLACK DOWN POINTING BACKHAND,BLACK LEFT POINTING,BLACK LEFT POINTING BACKHAND=INDEX",
   "BLACK DOWN-POINTING ISOSCELES RIGHT,BLACK DOWN-POINTING SMALL=TRIANGLE",
   "BLACK DOWN-POINTING,BLACK DOWN-POINTING DOUBLE=TRIANGLE",
   "BLACK DOWNWARDS EQUILATERAL,BLACK LEFTWARDS EQUILATERAL=ARROWHEAD",
   "BLACK DRAUGHTS,WHITE DRAUGHTS=KING MAN",
   "BLACK HARD SHELL FLOPPY,FLOPPY,HARD,SOFT SHELL FLOPPY,WHITE HARD SHELL FLOPPY=DISK",
   "BLACK HORIZONTAL,WHITE HORIZONTAL=ELLIPSE",
   "BLACK LARGE,BLACK SLIGHTLY SMALL,BOLD WHITE,EXTREMELY HEAVY WHITE=CIRCLE SQUARE",
   "BLACK LEFT LANE,WHITE LEFT LANE=MERGE",
   "BLACK LEFT-POINTING DOUBLE,BLACK LEFT-POINTING ISOSCELES RIGHT=TRIANGLE",
   "BLACK LEFT-POINTING SMALL,BLACK LOWER LEFT,BLACK LOWER RIGHT=TRIANGLE",
   "BLACK LEFT-POINTING,WHITE LEFT-POINTING=POINTER TRIANGLE",
   "BLACK LEFTWARDS,HYPHEN,INVERSE,REVERSED ROTATED FLORAL HEART=BULLET",
   "BLACK MEDIUM DOWN-POINTING TRIANGLE,BLACK MEDIUM LEFT-POINTING TRIANGLE=CENTRED",
   "BLACK MEDIUM DOWN-POINTING,BLACK MEDIUM LEFT-POINTING=TRIANGLE",
   "BLACK MEDIUM RIGHT-POINTING TRIANGLE,BLACK MEDIUM UP-POINTING TRIANGLE=CENTRED",
   "BLACK MEDIUM RIGHT-POINTING,BLACK MEDIUM UP-POINTING=TRIANGLE",
   "BLACK MEDIUM,BLACK MEDIUM SMALL,BLACK TINY,BLACK VERY SMALL=DIAMOND LOZENGE SQUARE",
   "BLACK MOON=LILITH",
   "BLACK QUESTION MARK,CURVED STEM PARAGRAPH SIGN,HEAVY AMPERSAND=ORNAMENT",
   "BLACK RIGHT POINTING,BLACK RIGHT POINTING BACKHAND,BLACK UP POINTING BACKHAND=INDEX",
   "BLACK RIGHT-POINTING DOUBLE TRIANGLE WITH VERTICAL=BAR",
   "BLACK RIGHT-POINTING DOUBLE,BLACK RIGHT-POINTING ISOSCELES RIGHT=TRIANGLE",
   "BLACK RIGHT-POINTING SMALL,BLACK UP-POINTING,BLACK UP-POINTING DOUBLE=TRIANGLE",
   "BLACK RIGHT-POINTING TRIANGLE WITH DOUBLE VERTICAL,BRAHMI PUNCTUATION CRESCENT=BAR",
   "BLACK RIGHT-POINTING,WHITE RIGHT-POINTING=PENTAGON POINTER TRIANGLE",
   "BLACK RIGHTWARDS EQUILATERAL,BLACK UPWARDS EQUILATERAL=ARROWHEAD",
   "BLACK RIGHTWARDS=ARROW ARROWHEAD BULLET",
   "BLACK SAFETY,LOWER BLADE,SIGNWRITING MOVEMENT-HINGE SIDE TO SIDE=SCISSORS",
   "BLACK SHOGI,JIGSAW PUZZLE,LEFT CURLY BRACKET MIDDLE=PIECE",
   "BLACK SKULL AND,SKULL AND=CROSSBONES",
   "BLACK SMALL,WHITE MEDIUM=DIAMOND LOZENGE SQUARE STAR",
   "BLACK SQUARE=BUTTON CENTRED",
   "BLACK SUN WITH,SIDDHAM SECTION MARK DOUBLE RING WITH=RAYS",
   "BLACK TOUCHTONE,WHITE TOUCHTONE=TELEPHONE",
   "BLACK UP-POINTING ISOSCELES RIGHT,BLACK UP-POINTING SMALL,BLACK UPPER LEFT=TRIANGLE",
   "BLACK UPPER RIGHT,COMBINING ENCLOSING UPWARD POINTING,DOWN-POINTING RED=TRIANGLE",
   "BLACK VERTICAL=ELLIPSE RECTANGLE",
   "BLACK-FEATHERED SOUTH EAST,BOTTOM ARC ANTICLOCKWISE,BOW AND=ARROW",
   "BLACK-LETTER CAPITAL=C H I R Z",
   "BLACK=BOWTIE CIRCLE DIAMOND DROPLET FLAG FLORETTE FOLDER HEART HEXAGON HOURGLASS LOZENGE NIB",
   "BLACK=OCTAGON PARALLELOGRAM PENNANT PENTAGON PUSHPIN RECTANGLE ROSETTE SCISSORS SNOWMAN",
   "BLACK=SQUARE STAR TELEPHONE TRUCK",
   "BLOCK=SEXTANT-1 SEXTANT-12 SEXTANT-123 SEXTANT-1234 SEXTANT-12345 SEXTANT-12346 SEXTANT-1235",
   "BLOCK=SEXTANT-12356 SEXTANT-1236 SEXTANT-124 SEXTANT-1245 SEXTANT-12456 SEXTANT-1246",
   "BLOCK=SEXTANT-125 SEXTANT-1256 SEXTANT-126 SEXTANT-13 SEXTANT-134 SEXTANT-1345 SEXTANT-13456",
   "BLOCK=SEXTANT-1346 SEXTANT-1356 SEXTANT-136 SEXTANT-14 SEXTANT-145 SEXTANT-1456 SEXTANT-146",
   "BLOCK=SEXTANT-15 SEXTANT-156 SEXTANT-16 SEXTANT-2 SEXTANT-23 SEXTANT-234 SEXTANT-2345",
   "BLOCK=SEXTANT-23456 SEXTANT-2346 SEXTANT-235 SEXTANT-2356 SEXTANT-236 SEXTANT-24 SEXTANT-245",
   "BLOCK=SEXTANT-2456 SEXTANT-25 SEXTANT-256 SEXTANT-26 SEXTANT-3 SEXTANT-34 SEXTANT-345",
   "BLOCK=SEXTANT-3456 SEXTANT-346 SEXTANT-35 SEXTANT-356 SEXTANT-36 SEXTANT-4 SEXTANT-45",
   "BLOCK=SEXTANT-456 SEXTANT-46 SEXTANT-5 SEXTANT-56 SEXTANT-6",
   "BLUE,ORANGE=BOOK HEART",
   "BOLD,EXTREMELY HEAVY,HEAVY CIRCLED=SALTIRE",
   "BOOKMARK=TABS",
   "BOPOMOFO FINAL LETTER=G H K P T",
   "BOPOMOFO LETTER O WITH DOT,COMBINING ANTICLOCKWISE ARROW=ABOVE",
   "BOPOMOFO LETTER=A AH AI AINN AM AN ANG ANN AU AUNN B BU C CH D E EE EH EI EN ENG ENN ER F G",
   "BOPOMOFO LETTER=GH GN GU GW H I IH IM INN INNN IR IU J JI K KW L LH M N NG NGG NN O OE OM",
   "BOPOMOFO LETTER=ONG ONN OO OU P Q R S SH T U UNN V X Z ZH ZI ZY",
   "BOTTLE WITH POPPING=CORK",
   "BOTTOM CURLY,BOTTOM LEFT HALF,BOTTOM RIGHT HALF,BOTTOM SQUARE=BRACKET",
   "BOTTOM LEFT,BOTTOM RIGHT,TOP LEFT,TOP RIGHT=CORNER CROP",
   "BOTTOM SQUARE BRACKET OVER TOP SQUARE,BOTTOM TORTOISE SHELL=BRACKET",
   "BOTTOM,BOTTOM HALF LEFT,BOTTOM HALF RIGHT,FULLWIDTH LEFT=PARENTHESIS",
   "BOUQUET OF=FLOWERS",
   "BOWL OF=HYGIEIA",
   "BOWL WITH=SPOON",
   "BOWTIE WITH LEFT HALF,BOWTIE WITH RIGHT HALF=BLACK",
   "BOX DRAWINGS DOUBLE DOWN AND,BOX DRAWINGS DOUBLE UP AND=HORIZONTAL LEFT RIGHT",
   "BOX DRAWINGS DOUBLE VERTICAL AND,BOX DRAWINGS HEAVY DOWN AND=HORIZONTAL LEFT RIGHT",
   "BOX DRAWINGS DOUBLE,BOX DRAWINGS HEAVY DOUBLE DASH=HORIZONTAL VERTICAL",
   "BOX DRAWINGS DOWN DOUBLE AND HORIZONTAL,BOX DRAWINGS DOWN DOUBLE AND LEFT=SINGLE",
   "BOX DRAWINGS DOWN DOUBLE AND RIGHT,BOX DRAWINGS UP DOUBLE AND HORIZONTAL=SINGLE",
   "BOX DRAWINGS DOWN HEAVY AND HORIZONTAL,BOX DRAWINGS DOWN HEAVY AND LEFT=LIGHT",
   "BOX DRAWINGS DOWN HEAVY AND LEFT UP,BOX DRAWINGS DOWN HEAVY AND RIGHT=LIGHT",
   "BOX DRAWINGS DOWN HEAVY AND RIGHT UP=LIGHT",
   "BOX DRAWINGS DOWN HEAVY AND UP HORIZONTAL=LIGHT",
   "BOX DRAWINGS DOWN LIGHT AND HORIZONTAL,BOX DRAWINGS DOWN LIGHT AND LEFT=HEAVY",
   "BOX DRAWINGS DOWN LIGHT AND LEFT UP,BOX DRAWINGS DOWN LIGHT AND RIGHT=HEAVY",
   "BOX DRAWINGS DOWN LIGHT AND RIGHT UP=HEAVY",
   "BOX DRAWINGS DOWN LIGHT AND UP HORIZONTAL=HEAVY",
   "BOX DRAWINGS DOWN SINGLE AND HORIZONTAL,BOX DRAWINGS DOWN SINGLE AND LEFT=DOUBLE",
   "BOX DRAWINGS DOWN SINGLE AND RIGHT,BOX DRAWINGS UP SINGLE AND HORIZONTAL=DOUBLE",
   "BOX DRAWINGS HEAVY QUADRUPLE DASH,BOX DRAWINGS HEAVY TRIPLE DASH=HORIZONTAL VERTICAL",
   "BOX DRAWINGS HEAVY UP AND LIGHT,BOX DRAWINGS LIGHT UP AND HEAVY=DOWN",
   "BOX DRAWINGS HEAVY UP AND,BOX DRAWINGS HEAVY VERTICAL AND=HORIZONTAL LEFT RIGHT",
   "BOX DRAWINGS HEAVY,BOX DRAWINGS LIGHT=DOWN HORIZONTAL LEFT RIGHT UP VERTICAL",
   "BOX DRAWINGS LEFT DOWN HEAVY AND RIGHT UP=LIGHT",
   "BOX DRAWINGS LEFT HEAVY AND RIGHT DOWN,BOX DRAWINGS LEFT HEAVY AND RIGHT UP=LIGHT",
   "BOX DRAWINGS LEFT HEAVY AND RIGHT VERTICAL=LIGHT",
   "BOX DRAWINGS LEFT LIGHT AND RIGHT DOWN,BOX DRAWINGS LEFT LIGHT AND RIGHT UP=HEAVY",
   "BOX DRAWINGS LEFT LIGHT AND RIGHT VERTICAL=HEAVY",
   "BOX DRAWINGS LEFT UP HEAVY AND RIGHT DOWN=LIGHT",
   "BOX DRAWINGS LIGHT ARC DOWN AND,BOX DRAWINGS LIGHT ARC UP AND=LEFT RIGHT",
   "BOX DRAWINGS LIGHT DIAGONAL MIDDLE LEFT TO LOWER CENTRE TO MIDDLE=RIGHT",
   "BOX DRAWINGS LIGHT DIAGONAL MIDDLE LEFT TO LOWER=CENTRE",
   "BOX DRAWINGS LIGHT DIAGONAL MIDDLE LEFT TO UPPER CENTRE TO MIDDLE RIGHT TO LOWER=CENTRE",
   "BOX DRAWINGS LIGHT DIAGONAL MIDDLE LEFT TO UPPER CENTRE TO MIDDLE=RIGHT",
   "BOX DRAWINGS LIGHT DIAGONAL MIDDLE RIGHT TO LOWER=CENTRE",
   "BOX DRAWINGS LIGHT DIAGONAL MIDDLE RIGHT TO UPPER CENTRE TO MIDDLE LEFT TO LOWER=CENTRE",
   "BOX DRAWINGS LIGHT DIAGONAL UPPER CENTRE TO MIDDLE LEFT AND MIDDLE RIGHT TO LOWER=CENTRE",
   "BOX DRAWINGS LIGHT DIAGONAL UPPER CENTRE TO MIDDLE LEFT TO LOWER CENTRE TO MIDDLE=RIGHT",
   "BOX DRAWINGS LIGHT DIAGONAL UPPER CENTRE TO MIDDLE LEFT TO LOWER=CENTRE",
   "BOX DRAWINGS LIGHT DIAGONAL UPPER CENTRE TO MIDDLE RIGHT AND MIDDLE LEFT TO LOWER=CENTRE",
   "BOX DRAWINGS LIGHT DIAGONAL UPPER CENTRE TO MIDDLE RIGHT TO LOWER CENTRE TO MIDDLE=LEFT",
   "BOX DRAWINGS LIGHT DIAGONAL UPPER CENTRE TO MIDDLE RIGHT TO LOWER=CENTRE",
   "BOX DRAWINGS LIGHT DIAGONAL UPPER CENTRE TO MIDDLE,COMBINING DOT ABOVE=LEFT RIGHT",
   "BOX DRAWINGS LIGHT DIAGONAL UPPER LEFT TO LOWER=RIGHT",
   "BOX DRAWINGS LIGHT DIAGONAL UPPER RIGHT TO LOWER,COMBINING DOT BELOW=LEFT",
   "BOX DRAWINGS LIGHT DIAGONAL,NEGATIVE DIAGONAL=CROSS DIAMOND",
   "BOX DRAWINGS LIGHT DOUBLE DASH,BOX DRAWINGS LIGHT QUADRUPLE DASH=HORIZONTAL VERTICAL",
   "BOX DRAWINGS LIGHT DOWN AND,BOX DRAWINGS LIGHT UP AND=HORIZONTAL LEFT RIGHT",
   "BOX DRAWINGS LIGHT LEFT AND HEAVY,CIRCLE WITH SMALL CIRCLE TO THE=RIGHT",
   "BOX DRAWINGS LIGHT TRIPLE DASH=HORIZONTAL VERTICAL",
   "BOX DRAWINGS LIGHT VERTICAL AND=HORIZONTAL LEFT RIGHT",
   "BOX DRAWINGS RIGHT DOWN HEAVY AND LEFT UP=LIGHT",
   "BOX DRAWINGS RIGHT HEAVY AND LEFT DOWN,BOX DRAWINGS RIGHT HEAVY AND LEFT UP=LIGHT",
   "BOX DRAWINGS RIGHT HEAVY AND LEFT VERTICAL=LIGHT",
   "BOX DRAWINGS RIGHT LIGHT AND LEFT DOWN,BOX DRAWINGS RIGHT LIGHT AND LEFT UP=HEAVY",
   "BOX DRAWINGS RIGHT LIGHT AND LEFT VERTICAL=HEAVY",
   "BOX DRAWINGS RIGHT UP HEAVY AND LEFT DOWN=LIGHT",
   "BOX DRAWINGS UP DOUBLE AND LEFT,BOX DRAWINGS UP DOUBLE AND RIGHT=SINGLE",
   "BOX DRAWINGS UP HEAVY AND DOWN HORIZONTAL=LIGHT",
   "BOX DRAWINGS UP HEAVY AND HORIZONTAL,BOX DRAWINGS UP HEAVY AND LEFT=LIGHT",
   "BOX DRAWINGS UP HEAVY AND LEFT DOWN,BOX DRAWINGS UP HEAVY AND RIGHT=LIGHT",
   "BOX DRAWINGS UP HEAVY AND RIGHT DOWN=LIGHT",
   "BOX DRAWINGS UP LIGHT AND DOWN HORIZONTAL=HEAVY",
   "BOX DRAWINGS UP LIGHT AND HORIZONTAL,BOX DRAWINGS UP LIGHT AND LEFT=HEAVY",
   "BOX DRAWINGS UP LIGHT AND LEFT DOWN,BOX DRAWINGS UP LIGHT AND RIGHT=HEAVY",
   "BOX DRAWINGS UP LIGHT AND RIGHT DOWN=HEAVY",
   "BOX DRAWINGS UP SINGLE AND LEFT,BOX DRAWINGS UP SINGLE AND RIGHT=DOUBLE",
   "BOX DRAWINGS VERTICAL DOUBLE AND HORIZONTAL=SINGLE",
   "BOX DRAWINGS VERTICAL DOUBLE AND LEFT,BOX DRAWINGS VERTICAL DOUBLE AND RIGHT=SINGLE",
   "BOX DRAWINGS VERTICAL HEAVY AND HORIZONTAL=LIGHT",
   "BOX DRAWINGS VERTICAL HEAVY AND LEFT,BOX DRAWINGS VERTICAL HEAVY AND RIGHT=LIGHT",
   "BOX DRAWINGS VERTICAL LIGHT AND HORIZONTAL=HEAVY",
   "BOX DRAWINGS VERTICAL LIGHT AND LEFT,BOX DRAWINGS VERTICAL LIGHT AND RIGHT=HEAVY",
   "BOX DRAWINGS VERTICAL SINGLE AND HORIZONTAL=DOUBLE",
   "BOX DRAWINGS VERTICAL SINGLE AND LEFT,BOX DRAWINGS VERTICAL SINGLE AND RIGHT=DOUBLE",
   "BOXING=GLOVE",
   "BOYS,CENTRE LINE,CLEAR SCREEN,COLLISION,COMBINING ANNUITY,COMPOSITION=SYMBOL",
   "BRAHMI LETTER OLD TAMIL SHORT,BRAHMI VOWEL SIGN OLD TAMIL SHORT=E O",
   "BRAHMI LETTER OLD TAMIL=LLA LLLA NNNA RRA",
   "BRAHMI LETTER,MODI LETTER,SHARADA LETTER=A AA AI AU BA BHA CA CHA DA DDA DDHA DHA E GA GHA",
   "BRAHMI LETTER,MODI LETTER,SHARADA LETTER=HA I II JA JHA KA KHA LA LLA MA NA NGA NNA NYA O PA",
   "BRAHMI LETTER,MODI LETTER,SHARADA LETTER=PHA RA SA SHA SSA TA THA TTA TTHA U UU VA YA",
   "BRAHMI NUMBER=EIGHT EIGHTY FIFTY FIVE FORTY FOUR JOINER NINE NINETY ONE SEVEN SEVENTY SIX",
   "BRAHMI NUMBER=SIXTY TEN THIRTY THREE TWENTY TWO",
   "BRAHMI PUNCTUATION=DOT LINE LOTUS",
   "BRAHMI SIGN OLD TAMIL,DEVANAGARI SIGN DOUBLE CANDRABINDU,DIVES AKURU=VIRAMA",
   "BRAHMI SIGN=ANUSVARA CANDRABINDU JIHVAMULIYA UPADHMANIYA VISARGA",
   "BRAHMI VOWEL SIGN BHATTIPROLU,MYANMAR VOWEL SIGN TALL,TAI THAM VOWEL SIGN TALL=AA",
   "BRAHMI VOWEL SIGN VOCALIC,DEVANAGARI LETTER VOCALIC,DEVANAGARI VOWEL SIGN VOCALIC=L LL R RR",
   "BRAHMI=DANDA VIRAMA",
   "BRAILLE PATTERN=BLANK DOTS-1 DOTS-12 DOTS-123 DOTS-1234 DOTS-12345 DOTS-123456 DOTS-1234567",
   "BRAILLE PATTERN=DOTS-12345678 DOTS-1234568 DOTS-123457 DOTS-1234578 DOTS-123458 DOTS-12346",
   "BRAILLE PATTERN=DOTS-123467 DOTS-1234678 DOTS-123468 DOTS-12347 DOTS-123478 DOTS-12348",
   "BRAILLE PATTERN=DOTS-1235 DOTS-12356 DOTS-123567 DOTS-1235678 DOTS-123568 DOTS-12357",
   "BRAILLE PATTERN=DOTS-123578 DOTS-12358 DOTS-1236 DOTS-12367 DOTS-123678 DOTS-12368 DOTS-1237",
   "BRAILLE PATTERN=DOTS-12378 DOTS-1238 DOTS-124 DOTS-1245 DOTS-12456 DOTS-124567 DOTS-1245678",
   "BRAILLE PATTERN=DOTS-124568 DOTS-12457 DOTS-124578 DOTS-12458 DOTS-1246 DOTS-12467",
   "BRAILLE PATTERN=DOTS-124678 DOTS-12468 DOTS-1247 DOTS-12478 DOTS-1248 DOTS-125 DOTS-1256",
   "BRAILLE PATTERN=DOTS-12567 DOTS-125678 DOTS-12568 DOTS-1257 DOTS-12578 DOTS-1258 DOTS-126",
   "BRAILLE PATTERN=DOTS-1267 DOTS-12678 DOTS-1268 DOTS-127 DOTS-1278 DOTS-128 DOTS-13 DOTS-134",
   "BRAILLE PATTERN=DOTS-1345 DOTS-13456 DOTS-134567 DOTS-1345678 DOTS-134568 DOTS-13457",
   "BRAILLE PATTERN=DOTS-134578 DOTS-13458 DOTS-1346 DOTS-13467 DOTS-134678 DOTS-13468 DOTS-1347",
   "BRAILLE PATTERN=DOTS-13478 DOTS-1348 DOTS-135 DOTS-1356 DOTS-13567 DOTS-135678 DOTS-13568",
   "BRAILLE PATTERN=DOTS-1357 DOTS-13578 DOTS-1358 DOTS-136 DOTS-1367 DOTS-13678 DOTS-1368",
   "BRAILLE PATTERN=DOTS-137 DOTS-1378 DOTS-138 DOTS-14 DOTS-145 DOTS-1456 DOTS-14567",
   "BRAILLE PATTERN=DOTS-145678 DOTS-14568 DOTS-1457 DOTS-14578 DOTS-1458 DOTS-146 DOTS-1467",
   "BRAILLE PATTERN=DOTS-14678 DOTS-1468 DOTS-147 DOTS-1478 DOTS-148 DOTS-15 DOTS-156 DOTS-1567",
   "BRAILLE PATTERN=DOTS-15678 DOTS-1568 DOTS-157 DOTS-1578 DOTS-158 DOTS-16 DOTS-167 DOTS-1678",
   "BRAILLE PATTERN=DOTS-168 DOTS-17 DOTS-178 DOTS-18 DOTS-2 DOTS-23 DOTS-234 DOTS-2345",
   "BRAILLE PATTERN=DOTS-23456 DOTS-234567 DOTS-2345678 DOTS-234568 DOTS-23457 DOTS-234578",
   "BRAILLE PATTERN=DOTS-23458 DOTS-2346 DOTS-23467 DOTS-234678 DOTS-23468 DOTS-2347 DOTS-23478",
   "BRAILLE PATTERN=DOTS-2348 DOTS-235 DOTS-2356 DOTS-23567 DOTS-235678 DOTS-23568 DOTS-2357",
   "BRAILLE PATTERN=DOTS-23578 DOTS-2358 DOTS-236 DOTS-2367 DOTS-23678 DOTS-2368 DOTS-237",
   "BRAILLE PATTERN=DOTS-2378 DOTS-238 DOTS-24 DOTS-245 DOTS-2456 DOTS-24567 DOTS-245678",
   "BRAILLE PATTERN=DOTS-24568 DOTS-2457 DOTS-24578 DOTS-2458 DOTS-246 DOTS-2467 DOTS-24678",
   "BRAILLE PATTERN=DOTS-2468 DOTS-247 DOTS-2478 DOTS-248 DOTS-25 DOTS-256 DOTS-2567 DOTS-25678",
   "BRAILLE PATTERN=DOTS-2568 DOTS-257 DOTS-2578 DOTS-258 DOTS-26 DOTS-267 DOTS-2678 DOTS-268",
   "BRAILLE PATTERN=DOTS-27 DOTS-278 DOTS-28 DOTS-3 DOTS-34 DOTS-345 DOTS-3456 DOTS-34567",
   "BRAILLE PATTERN=DOTS-345678 DOTS-34568 DOTS-3457 DOTS-34578 DOTS-3458 DOTS-346 DOTS-3467",
   "BRAILLE PATTERN=DOTS-34678 DOTS-3468 DOTS-347 DOTS-3478 DOTS-348 DOTS-35 DOTS-356 DOTS-3567",
   "BRAILLE PATTERN=DOTS-35678 DOTS-3568 DOTS-357 DOTS-3578 DOTS-358 DOTS-36 DOTS-367 DOTS-3678",
   "BRAILLE PATTERN=DOTS-368 DOTS-37 DOTS-378 DOTS-38 DOTS-4 DOTS-45 DOTS-456 DOTS-4567",
   "BRAILLE PATTERN=DOTS-45678 DOTS-4568 DOTS-457 DOTS-4578 DOTS-458 DOTS-46 DOTS-467 DOTS-4678",
   "BRAILLE PATTERN=DOTS-468 DOTS-47 DOTS-478 DOTS-48 DOTS-5 DOTS-56 DOTS-567 DOTS-5678 DOTS-568",
   "BRAILLE PATTERN=DOTS-57 DOTS-578 DOTS-58 DOTS-6 DOTS-67 DOTS-678 DOTS-68 DOTS-7 DOTS-78",
   "BRAILLE PATTERN=DOTS-8",
   "BREAK PERMITTED,NO BREAK=HERE",
   "BRIDE WITH=VEIL",
   "BRIDGE AT=NIGHT",
   "BROKEN CIRCLE WITH NORTHWEST,CIRCLED ANTICLOCKWISE=ARROW",
   "BROKEN=BAR HEART",
   "BUBBLE=TEA",
   "BUGINESE LETTER=A BA CA DA GA HA JA KA LA MA MPA NA NGA NGKA NRA NYA NYCA PA RA SA TA VA YA",
   "BUGINESE VOWEL SIGN=AE E I O U",
   "BUGINESE=PALLAWA",
   "BUHID LETTER,HANUNOO LETTER,TAGALOG LETTER=A BA DA GA HA I KA LA MA NA NGA PA RA SA TA U WA",
   "BUHID LETTER,HANUNOO LETTER,TAGALOG LETTER=YA",
   "BUHID VOWEL SIGN,CYRILLIC CAPITAL LETTER SHORT,CYRILLIC SMALL LETTER SHORT=I U",
   "BUILDING=CONSTRUCTION",
   "BULLHORN WITH SOUND,RIGHT SPEAKER WITH THREE SOUND,SPEAKER WITH THREE SOUND=WAVES",
   "BUST IN,BUSTS IN,SPEAKING HEAD IN=SILHOUETTE",
   "BYTE ORDER,CAUCASIAN ALBANIAN CITATION,CHAKMA AU,CHAKMA O,CHAKMA QUESTION=MARK",
   "BYZANTINE MUSICAL SYMBOL AGOGI POLI=ARGI GORGI",
   "BYZANTINE MUSICAL SYMBOL AGOGI=ARGI ARGOTERI GORGI GORGOTERI MESI METRIA",
   "BYZANTINE MUSICAL SYMBOL APESO EXO=NEO",
   "BYZANTINE MUSICAL SYMBOL APESO,BYZANTINE MUSICAL SYMBOL EXO=EKFONITIKON",
   "BYZANTINE MUSICAL SYMBOL APODERMA,BYZANTINE MUSICAL SYMBOL CHOREVMA=ARCHAION NEO",
   "BYZANTINE MUSICAL SYMBOL APOSTROFOI SYNDESMOS,BYZANTINE MUSICAL SYMBOL PELASTON=NEO",
   "BYZANTINE MUSICAL SYMBOL APOSTROFOI TELOUS=ICHIMATOS",
   "BYZANTINE MUSICAL SYMBOL APOSTROFOS=DIPLI NEO",
   "BYZANTINE MUSICAL SYMBOL ARKTIKO=DI GA KE NI PA VOU ZO",
   "BYZANTINE MUSICAL SYMBOL CHROA=KLITON SPATHI ZYGOS",
   "BYZANTINE MUSICAL SYMBOL DIASTOLI APLI=MEGALI MIKRI",
   "BYZANTINE MUSICAL SYMBOL DIASTOLI=DIPLI THESEOS",
   "BYZANTINE MUSICAL SYMBOL DIESIS APLI DYO=DODEKATA",
   "BYZANTINE MUSICAL SYMBOL DIESIS DIGRAMMOS EX=DODEKATA",
   "BYZANTINE MUSICAL SYMBOL DIESIS MONOGRAMMOS TESSERA=DODEKATA",
   "BYZANTINE MUSICAL SYMBOL DIESIS TRIGRAMMOS OKTO=DODEKATA",
   "BYZANTINE MUSICAL SYMBOL DIESIS=TETARTIMORION TRITIMORION",
   "BYZANTINE MUSICAL SYMBOL DIFTOGGOS=OU",
   "BYZANTINE MUSICAL SYMBOL DIGORGON PARESTIGMENON ARISTERA=ANO KATO",
   "BYZANTINE MUSICAL SYMBOL DIGORGON PARESTIGMENON=DEXIA",
   "BYZANTINE MUSICAL SYMBOL DIGRAMMA=GG",
   "BYZANTINE MUSICAL SYMBOL DIPLI,BYZANTINE MUSICAL SYMBOL GORGON=ARCHAION",
   "BYZANTINE MUSICAL SYMBOL ENARXIS KAI FTHORA=VOU",
   "BYZANTINE MUSICAL SYMBOL ETERON=ARGOSYNTHETON PARAKALESMA",
   "BYZANTINE MUSICAL SYMBOL FANEROSIS=DIFONIAS MONOFONIAS TETRAFONIAS",
   "BYZANTINE MUSICAL SYMBOL FHTORA SKLIRON CHROMA=VASIS",
   "BYZANTINE MUSICAL SYMBOL FTHORA ARCHAION DEYTEROU=ICHOU",
   "BYZANTINE MUSICAL SYMBOL FTHORA DIATONIKI NI=ANO KATO",
   "BYZANTINE MUSICAL SYMBOL FTHORA DIATONIKI=DI KE NANA PA ZO",
   "BYZANTINE MUSICAL SYMBOL FTHORA ENARMONIOS=ANTIFONIA",
   "BYZANTINE MUSICAL SYMBOL FTHORA I YFESIS=TETARTIMORION",
   "BYZANTINE MUSICAL SYMBOL FTHORA MALAKON CHROMA=DIFONIAS MONOFONIAS",
   "BYZANTINE MUSICAL SYMBOL FTHORA NAOS=ICHOS",
   "BYZANTINE MUSICAL SYMBOL FTHORA SKLIRON CHROMA=SYNAFI VASIS",
   "BYZANTINE MUSICAL SYMBOL FTHORA SKLIRON DIATONON=DI",
   "BYZANTINE MUSICAL SYMBOL FTHORA=ARCHAION NENANO",
   "BYZANTINE MUSICAL SYMBOL GENIKI=DIESIS YFESIS",
   "BYZANTINE MUSICAL SYMBOL GORGON NEO,BYZANTINE MUSICAL SYMBOL KLASMA=ANO KATO",
   "BYZANTINE MUSICAL SYMBOL GORGON PARESTIGMENON=ARISTERA DEXIA",
   "BYZANTINE MUSICAL SYMBOL GORTHMIKON N=APLOUN DIPLOUN",
   "BYZANTINE MUSICAL SYMBOL ISAKIA TELOUS=ICHIMATOS",
   "BYZANTINE MUSICAL SYMBOL ISON,BYZANTINE MUSICAL SYMBOL OLIGON=ARCHAION NEO",
   "BYZANTINE MUSICAL SYMBOL KATAVA=TROMIKON",
   "BYZANTINE MUSICAL SYMBOL KENTIMA NEO,BYZANTINE MUSICAL SYMBOL KENTIMATA NEO=ANO KATO MESO",
   "BYZANTINE MUSICAL SYMBOL KENTIMA,BYZANTINE MUSICAL SYMBOL KENTIMATA=ARCHAION",
   "BYZANTINE MUSICAL SYMBOL KONTEVMA=ALLO",
   "BYZANTINE MUSICAL SYMBOL KRATIMA,BYZANTINE MUSICAL SYMBOL TROMIKON=ALLO ARCHAION NEO",
   "BYZANTINE MUSICAL SYMBOL LEIMMA DYO=CHRONON",
   "BYZANTINE MUSICAL SYMBOL LEIMMA ENOS=CHRONOU",
   "BYZANTINE MUSICAL SYMBOL LEIMMA IMISEOS=CHRONOU",
   "BYZANTINE MUSICAL SYMBOL LEIMMA TESSARON=CHRONON",
   "BYZANTINE MUSICAL SYMBOL LEIMMA TRION=CHRONON",
   "BYZANTINE MUSICAL SYMBOL MARTYRIA ALLI DEYTEROS=ICHOS",
   "BYZANTINE MUSICAL SYMBOL MARTYRIA ALLI PROTOS=ICHOS",
   "BYZANTINE MUSICAL SYMBOL MARTYRIA DEYTEROS=ICHOS",
   "BYZANTINE MUSICAL SYMBOL MARTYRIA LEGETOS=ICHOS",
   "BYZANTINE MUSICAL SYMBOL MARTYRIA PLAGIOS TETARTOS=ICHOS",
   "BYZANTINE MUSICAL SYMBOL MARTYRIA PLAGIOS=ICHOS",
   "BYZANTINE MUSICAL SYMBOL MARTYRIA PROTOS=ICHOS",
   "BYZANTINE MUSICAL SYMBOL MARTYRIA PROTOVARYS=ICHOS",
   "BYZANTINE MUSICAL SYMBOL MARTYRIA TETARTOS LEGETOS=ICHOS",
   "BYZANTINE MUSICAL SYMBOL MARTYRIA TETARTOS=ICHOS",
   "BYZANTINE MUSICAL SYMBOL MARTYRIA TRITOS=ICHOS",
   "BYZANTINE MUSICAL SYMBOL MARTYRIA VARYS=ICHOS",
   "BYZANTINE MUSICAL SYMBOL MARTYRIA=TRIFONIAS",
   "BYZANTINE MUSICAL SYMBOL MIKRON=ISON",
   "BYZANTINE MUSICAL SYMBOL OXEIA,BYZANTINE MUSICAL SYMBOL VAREIA=DIPLI EKFONITIKON NEO",
   "BYZANTINE MUSICAL SYMBOL OXEIAI,BYZANTINE MUSICAL SYMBOL VAREIAI=ARCHAION",
   "BYZANTINE MUSICAL SYMBOL OYRANISMA,BYZANTINE MUSICAL SYMBOL PARAKALESMA=ARCHAION NEO",
   "BYZANTINE MUSICAL SYMBOL PARAKLITIKI,BYZANTINE MUSICAL SYMBOL PIASMA=ARCHAION NEO",
   "BYZANTINE MUSICAL SYMBOL PSIFISTON,BYZANTINE MUSICAL SYMBOL SEISMA=NEO",
   "BYZANTINE MUSICAL SYMBOL SIMANSIS ARSEOS=DISIMOU TETRASIMOU TRISIMOU",
   "BYZANTINE MUSICAL SYMBOL SIMANSIS THESEOS=DISIMOU TETRASIMOU TRISIMOU",
   "BYZANTINE MUSICAL SYMBOL SIMANSIS=ARSEOS THESEOS",
   "BYZANTINE MUSICAL SYMBOL STAVROS=APODEXIA",
   "BYZANTINE MUSICAL SYMBOL SYNAGMA META=STAVROU",
   "BYZANTINE MUSICAL SYMBOL SYNAGMA=ARCHAION NEO",
   "BYZANTINE MUSICAL SYMBOL THEMA=APLOUN",
   "BYZANTINE MUSICAL SYMBOL THEMATISMOS=ESO EXO",
   "BYZANTINE MUSICAL SYMBOL THES KAI=APOTHES",
   "BYZANTINE MUSICAL SYMBOL XIRON=KLASMA",
   "BYZANTINE MUSICAL SYMBOL YFEN=ANO KATO",
   "BYZANTINE MUSICAL SYMBOL YFESIS APLI DYO=DODEKATA",
   "BYZANTINE MUSICAL SYMBOL YFESIS DIGRAMMOS EX=DODEKATA",
   "BYZANTINE MUSICAL SYMBOL YFESIS MONOGRAMMOS TESSERA=DODEKATA",
   "BYZANTINE MUSICAL SYMBOL YFESIS TRIGRAMMOS OKTO=DODEKATA",
   "BYZANTINE MUSICAL SYMBOL YFESIS=TRITIMORION",
   "BYZANTINE MUSICAL SYMBOL YPOKRISIS=DIPLI",
   "BYZANTINE MUSICAL SYMBOL=ANATRICHISMA ANTIKENOKYLISMA ANTIKENOMA APLI APOSTROFOS APOTHEMA",
   "BYZANTINE MUSICAL SYMBOL=ARGON ARGOSYNTHETON CHAMILI CHAMILON DASEIA DIARGON DIGORGON DIPLI",
   "BYZANTINE MUSICAL SYMBOL=DYO EKSTREPTON ELAFRON ENDOFONON EPEGERMA GORGOSYNTHETON",
   "BYZANTINE MUSICAL SYMBOL=GRONTHISMATA ICHADIN IMIDIARGON IMIFONON IMIFTHORA IMIFTHORON",
   "BYZANTINE MUSICAL SYMBOL=KATAVASMA KATHISTI KENTIMATA KLASMA KONTEVMA KORONIS KOUFISMA",
   "BYZANTINE MUSICAL SYMBOL=KRATIMATA KRATIMOKOUFISMA KRATIMOYPORROON KREMASTI KYLISMA LEMOI",
   "BYZANTINE MUSICAL SYMBOL=LYGISMA NANA OMALON PARAKLITIKI PARICHON PELASTON PERISPOMENI",
   "BYZANTINE MUSICAL SYMBOL=PETASMA PETASTI PETASTOKOUFISMA PSIFISTOLYGISMA PSIFISTON",
   "BYZANTINE MUSICAL SYMBOL=PSIFISTOPARAKALESMA PSIFISTOSYNAGMA PSILI PSILON RAPISMA REVMA",
   "BYZANTINE MUSICAL SYMBOL=SAXIMATA SEISMA STAVROS STIGMA STRAGGISMATA SYNEVMA SYRMA SYRMATIKI",
   "BYZANTINE MUSICAL SYMBOL=TELEIA TESSERA TETRAPLI THEMA THITA TINAGMA TRIA TRIGORGON TRIPLI",
   "BYZANTINE MUSICAL SYMBOL=TROMIKOLYGISMA TROMIKOPARAKALESMA TROMIKOPSIFISTON TROMIKOSYNAGMA",
   "BYZANTINE MUSICAL SYMBOL=VATHY YPOKRISIS YPORROI YPSILI"]

def rowsFromC : List String :=
  ["CADA=UNA",
   "CALL ME,HAPPY PERSON RAISING ONE,LEFT WRITING,PALM DOWN,PALM UP,PINCHING=HAND",
   "CAMERA WITH=FLASH",
   "CANADIAN SYLLABICS AIVILIK,LATIN LETTER SMALL CAPITAL BARRED,LINEAR A SIGN A702=B",
   "CANADIAN SYLLABICS ATHAPASCAN,DUPLOYAN LETTER N=M S",
   "CANADIAN SYLLABICS BEAVER DENE,CANADIAN SYLLABICS MEDIAL=L R",
   "CANADIAN SYLLABICS BIBLE-CREE,LINEAR A SIGN A712,MYANMAR VOWEL SIGN SHAN FINAL=Y",
   "CANADIAN SYLLABICS BLACKFOOT=A E I KA KE KI KO NA NE NI NO O S W WA WE WI WO",
   "CANADIAN SYLLABICS CARRIER DENE,MENDE KIKAKUI SYLLABLE M190=GEE",
   "CANADIAN SYLLABICS CARRIER DENTAL,COMBINING LATIN SMALL LETTER LONG=S",
   "CANADIAN SYLLABICS CARRIER INITIAL,LATIN CAPITAL LETTER D WITH SMALL LETTER=Z",
   "CANADIAN SYLLABICS CARRIER=CHA CHE CHEE CHI CHO CHU DEE DI DLA DLE DLEE DLI DLO DLU DZA DZE",
   "CANADIAN SYLLABICS CARRIER=DZEE DZI DZO DZU EE GA GAA GE GEE GHA GHE GHEE GHI GHO GHU GI GO",
   "CANADIAN SYLLABICS CARRIER=GU GWA GWU H HEE HI HWA HWE HWEE HWI HWO HWU I JA JE JEE JI JJA",
   "CANADIAN SYLLABICS CARRIER=JJE JJEE JJI JJO JJU JO JU JWA KHA KHE KHEE KHI KHO KHU KK KKA",
   "CANADIAN SYLLABICS CARRIER=KKE KKEE KKI KKO KKU LA LE LEE LHA LHE LHEE LHI LHO LHU LI LO LU",
   "CANADIAN SYLLABICS CARRIER=MA ME MEE MI MO MU NA NE NEE NG NI NO NU P PA PE PEE PI PO PU RA",
   "CANADIAN SYLLABICS CARRIER=RE REE RI RO RU SA SE SEE SH SHA SHE SHEE SHI SHO SHU SI SO SU",
   "CANADIAN SYLLABICS CARRIER=THA THE THEE THI THO THU TLA TLE TLEE TLHA TLHE TLHEE TLHI TLHO",
   "CANADIAN SYLLABICS CARRIER=TLHU TLI TLO TLU TSA TSE TSEE TSI TSO TSU TTA TTE TTEE TTI TTO",
   "CANADIAN SYLLABICS CARRIER=TTSA TTSE TTSEE TTSI TTSO TTSU TTU WA WE WEE WI WO WU YA YE YEE",
   "CANADIAN SYLLABICS CARRIER=YI YO YU Z ZA ZE ZEE ZI ZO ZU",
   "CANADIAN SYLLABICS EASTERN,CANADIAN SYLLABICS WESTERN=W",
   "CANADIAN SYLLABICS FINAL BOTTOM HALF,CANADIAN SYLLABICS FINAL RIGHT HALF=RING",
   "CANADIAN SYLLABICS FINAL DOUBLE SHORT VERTICAL=STROKES",
   "CANADIAN SYLLABICS FINAL DOUBLE,CYRILLIC CAPITAL LETTER U WITH DOUBLE=ACUTE",
   "CANADIAN SYLLABICS FINAL DOWN,DOUBLE DOWN,DOUBLE UP,LARGE DOWN,LARGE UP=TACK",
   "CANADIAN SYLLABICS FINAL MIDDLE,CANADIAN SYLLABICS FINAL RAISED=DOT",
   "CANADIAN SYLLABICS FINAL SHORT HORIZONTAL=STROKE",
   "CANADIAN SYLLABICS FINAL SMALL,CANADIAN SYLLABICS FINAL TOP HALF=RING",
   "CANADIAN SYLLABICS FINAL=ACUTE GRAVE PLUS RING",
   "CANADIAN SYLLABICS GLOTTAL,COPTIC FULL,COPTIC OLD NUBIAN FULL=STOP",
   "CANADIAN SYLLABICS MOOSE-CREE=SK",
   "CANADIAN SYLLABICS N-CREE=THE THI THII",
   "CANADIAN SYLLABICS NASKAPI=CWAA KWAA MWAA NWAA S-W SCWA SKW SKWA SPWA STWA SWAA TWAA WAA WOO",
   "CANADIAN SYLLABICS NASKAPI=YWAA",
   "CANADIAN SYLLABICS NATTILIK=HA HAA HI HII HO HOO SHRA SHRAA SHRI SHRII SHRO SHROO",
   "CANADIAN SYLLABICS NUNAVIK=H HA HAA HE HI HII HO HOO",
   "CANADIAN SYLLABICS NUNAVUT,LATIN CAPITAL LETTER HALF=H",
   "CANADIAN SYLLABICS OJIBWAY=C K M N NWI NWII NWO NWOO P S SH T",
   "CANADIAN SYLLABICS R-CREE=RE RWE",
   "CANADIAN SYLLABICS SAYISI=HA HE HI HO HOO JI JU JUU M SHA SHE SHI SHO SHOO SHWE TH YI",
   "CANADIAN SYLLABICS SOUTH-SLAVEY=KAH KEH KIH KOH",
   "CANADIAN SYLLABICS TH-CREE=TH THA THAA THE THI THII THO THOO",
   "CANADIAN SYLLABICS WEST-CREE=CWA CWAA CWE CWI CWII CWO CWOO FWAA KWA KWAA KWE KWI KWII KWO",
   "CANADIAN SYLLABICS WEST-CREE=KWOO L LA LAA LE LO LOO LWA LWAA LWE LWI LWII LWO LWOO M MWA",
   "CANADIAN SYLLABICS WEST-CREE=MWAA MWE MWI MWII MWO MWOO NWA NWAA NWE P PWA PWAA PWE PWI PWII",
   "CANADIAN SYLLABICS WEST-CREE=PWO PWOO R RA RE RI RO RWAA SHWA SHWAA SHWE SHWI SHWII SHWO",
   "CANADIAN SYLLABICS WEST-CREE=SHWOO SWA SWAA SWE SWI SWII SWO SWOO THWAA TWA TWAA TWE TWI",
   "CANADIAN SYLLABICS WEST-CREE=TWII TWO TWOO WA WAA WE WI WII WO WOO Y YWA YWAA YWE YWI YWII",
   "CANADIAN SYLLABICS WEST-CREE=YWO YWOO",
   "CANADIAN SYLLABICS WOODS-CREE FINAL=TH",
   "CANADIAN SYLLABICS WOODS-CREE=TH THA THE THI THO THWA THWAA THWEE THWI THWII THWO THWOO",
   "CANADIAN SYLLABICS Y-CREE=COO KOO LOO MOO NOO OO POO PWAA SOO TOO W YOO",
   "CANADIAN SYLLABICS=A AA AAI AAY AI AN AY C CA CAA CAAI CE CI CII CO COO CWA CWAA CWE CWI",
   "CANADIAN SYLLABICS=CWII CWO CWOO E EN F FA FAA FAAI FE FI FII FO FOO FWAA HK HYPHEN I II IN",
   "CANADIAN SYLLABICS=K KA KAA KAAI KAY KE KI KII KO KOO KW KWA KWAA KWAY KWE KWI KWII KWO KWOO",
   "CANADIAN SYLLABICS=L LA LAA LAAI LAY LE LH LHA LHAA LHI LHII LHO LHOO LI LII LO LOO LWA LWAA",
   "CANADIAN SYLLABICS=LWE LWI LWII LWO LWOO M MA MAA MAAI MAY ME MH MI MII MO MOO MWA MWAA MWE",
   "CANADIAN SYLLABICS=MWI MWII MWO MWOO N NA NAA NAAI NAY NE NG NGA NGAA NGAAI NGAI NGI NGII",
   "CANADIAN SYLLABICS=NGO NGOO NH NI NII NNG NNGA NNGAA NNGI NNGII NNGO NNGOO NO NOO NOY NWA",
   "CANADIAN SYLLABICS=NWAA NWE NWI NWII NWO NWOO O ON OO OY P PA PAA PAAI PAY PE PI PII PO POO",
   "CANADIAN SYLLABICS=POY PWA PWAA PWE PWI PWII PWO PWOO PWOY Q QA QAA QAAI QAI QI QII QO QOO R",
   "CANADIAN SYLLABICS=RA RAA RAAI RAY RE RI RII RO ROO RWA RWAA RWEE RWI RWII RWO RWOO S SA SAA",
   "CANADIAN SYLLABICS=SAAI SAY SE SH SHA SHAA SHAY SHE SHI SHII SHO SHOO SHOY SHWA SHWAA SHWE",
   "CANADIAN SYLLABICS=SHWI SHWII SHWO SHWOO SHWOY SI SII SO SOO SOY SPA SPE SPI SPO SW SWA SWAA",
   "CANADIAN SYLLABICS=SWE SWI SWII SWO SWOO T TA TAA TAAI TAY TE TH THA THAA THE THI THII THO",
   "CANADIAN SYLLABICS=THOO THWA THWAA THWE TI TII TLHA TLHE TLHI TLHO TLHOO TLHWE TO TOO TTA",
   "CANADIAN SYLLABICS=TTE TTH TTHA TTHAA TTHE TTHI TTHO TTHOO TTHWE TTI TTO TWA TWAA TWE TWI",
   "CANADIAN SYLLABICS=TWII TWO TWOO TYA TYE TYI TYO WA WAA WAY WE WI WII WO WOO Y YA YAA YAAI",
   "CANADIAN SYLLABICS=YAY YE YI YII YO YOO YOY YWA YWAA YWE YWI YWII YWO YWOO",
   "CANCEL=CHARACTER TAG",
   "CANNED,FACE SAVOURING DELICIOUS,POT OF,SHALLOW PAN OF=FOOD",
   "CAR=SLIDING",
   "CARD INDEX=DIVIDERS",
   "CARD,LEFT THIRD WHITE RIGHT POINTING,MIDDLE THIRD WHITE RIGHT POINTING=INDEX",
   "CARET INSERTION,HYPHENATION=POINT",
   "CARIAN LETTER=A A2 B C-18 C-39 D D2 E E2 G G2 I II K K2 L LD LD2 M MB MB2 MB3 MB4 N ND NG NN",
   "CARIAN LETTER=O P P2 Q R RR S SH SH2 SS ST ST2 T TT TT2 U UU UUU UUU2 UUU3 UUUU X",
   "CAROUSEL=HORSE",
   "CARP=STREAMER",
   "CARPENTRY=SAW",
   "CARRIAGE,SYMBOL FOR CARRIAGE=RETURN",
   "CAT FACE WITH TEARS OF,FACE WITH TEARS OF=JOY",
   "CAT FACE WITH WRY=SMILE",
   "CAUCASIAN ALBANIAN LETTER=ALT AOR BET CAR CAYN CHA CHAT CHI CHOY CYAW CYAY DAT DYAN DZAY",
   "CAUCASIAN ALBANIAN LETTER=DZYAY EB EYN FAM GHEYS GIM HEYT INYA IRB IWN JAYN JHOX KAR KIW LAN",
   "CAUCASIAN ALBANIAN LETTER=LYIT MAQ NOWC ON PEN PIWR QAR QAY RAT SEYK SHA SHAK SHOY TAS TIWR",
   "CAUCASIAN ALBANIAN LETTER=TYAY VEYZ XEYN YAYD YOWD ZARL ZHA ZHIL",
   "CENT,CHART WITH UPWARDS TREND AND YEN,CIRCLED ANTICLOCKWISE-ROTATED DIVISION=SIGN",
   "CENTRELINE LOW,COMBINING DOUBLE LOW,COMBINING LOW,DASHED LOW,DOUBLE LOW=LINE",
   "CENTRELINE,DASHED,DOUBLE WAVY=OVERLINE",
   "CHAKMA LETTER=AA BAA BHAA CAA CHAA DAA DDAA DDHAA DHAA E GAA GHAA HAA I JAA JHAA KAA KHAA",
   "CHAKMA LETTER=LAA LHAA MAA NAA NGAA NNAA NYAA PAA PHAA RAA SAA TAA THAA TTAA TTHAA U VAA WAA",
   "CHAKMA LETTER=YAA YYAA",
   "CHAKMA SECTION,CHECK,CIRCLED POSTAL,COMBINING ACUTE TONE,COMBINING DELETION=MARK",
   "CHAKMA SIGN=ANUSVARA CANDRABINDU VISARGA",
   "CHAKMA VOWEL SIGN=A AA AI AU E EI I II O OI U UU",
   "CHAKMA=DANDA MAAYYAA VIRAMA",
   "CHAM CONSONANT SIGN FINAL=H M NG",
   "CHAM CONSONANT SIGN=LA RA WA YA",
   "CHAM LETTER FINAL=CH G K L N NG P R SS T Y",
   "CHAM LETTER=A AI BA BBA BHA CHA CHHA DA DDA DHA E GA GHA HA I JA JHA KA KHA LA MA MUE NA NGA",
   "CHAM LETTER=NGUE NHA NHJA NHUE NUE O PA PHA PPA RA SA SSA TA THA U VA YA",
   "CHAM PUNCTUATION DOUBLE,CHAM PUNCTUATION TRIPLE,DEVANAGARI DOUBLE=DANDA",
   "CHAM PUNCTUATION=DANDA SPIRAL",
   "CHAM VOWEL SIGN=AA AI AU EI I II O OE U UE",
   "CHARACTER TABULATION WITH,HORIZONTAL TABULATION WITH=JUSTIFICATION",
   "CHARACTER TABULATION,HORIZONTAL TABULATION,LINE TABULATION,REVERSED EMPTY=SET",
   "CHARACTER=TABULATION TIE",
   "CHART WITH DOWNWARDS,CHART WITH UPWARDS=TREND",
   "CHECKER BOARD,CIRCLE WITH VERTICAL,HEAVY HORIZONTAL,INVERSE CHECKER BOARD=FILL",
   "CHECKER,CLAPPER,REVERSE CHECKER=BOARD",
   "CHEERING=MEGAPHONE",
   "CHEESE=WEDGE",
   "CHEQUERED,CLOSED MAILBOX WITH LOWERED,CLOSED MAILBOX WITH RAISED=FLAG",
   "CHEROKEE LETTER,CHEROKEE SMALL LETTER=A DA DE DI DLA DO DU DV E GA GE GI GO GU GV HA HE HI",
   "CHEROKEE LETTER,CHEROKEE SMALL LETTER=HNA HO HU HV I KA LA LE LI LO LU LV MA ME MI MO MU MV",
   "CHEROKEE LETTER,CHEROKEE SMALL LETTER=NA NAH NE NI NO NU NV O QUA QUE QUI QUO QUU QUV S SA",
   "CHEROKEE LETTER,CHEROKEE SMALL LETTER=SE SI SO SU SV TA TE TI TLA TLE TLI TLO TLU TLV TSA",
   "CHEROKEE LETTER,CHEROKEE SMALL LETTER=TSE TSI TSO TSU TSV U V WA WE WI WO WU WV YA YE YI YO",
   "CHEROKEE LETTER,CHEROKEE SMALL LETTER=YU YV",
   "CHERRY=BLOSSOM",
   "CHI,GREEK SYMBOL TAU=RHO",
   "CHILDREN=CROSSING",
   "CHOCOLATE,CIRCLE DIVIDED BY HORIZONTAL BAR AND TOP HALF DIVIDED BY VERTICAL=BAR",
   "CHORASMIAN LETTER SMALL=ALEPH",
   "CHORASMIAN LETTER=ALEPH AYIN BETH DALETH GIMEL HE HETH KAPH LAMEDH MEM NUN PE RESH SAMEKH",
   "CHORASMIAN LETTER=SHIN TAW WAW YODH ZAYIN",
   "CHORASMIAN NUMBER ONE,COPTIC EPACT NUMBER EIGHT,COPTIC EPACT NUMBER FIVE=HUNDRED",
   "CHORASMIAN NUMBER,INSCRIPTIONAL PAHLAVI NUMBER,INSCRIPTIONAL PARTHIAN NUMBER=FOUR ONE TEN",
   "CHORASMIAN NUMBER,INSCRIPTIONAL PAHLAVI NUMBER,INSCRIPTIONAL PARTHIAN NUMBER=THREE TWENTY",
   "CHORASMIAN NUMBER,INSCRIPTIONAL PAHLAVI NUMBER,INSCRIPTIONAL PARTHIAN NUMBER=TWO",
   "CHRISTMAS,DECIDUOUS,EVERGREEN,LINEAR B IDEOGRAM B176,PHAISTOS DISC SIGN PLANE=TREE",
   "CIRCLE WITH ALL BUT UPPER LEFT QUADRANT,CIRCLE WITH LEFT HALF=BLACK",
   "CIRCLE WITH HORIZONTAL,CIRCLED VERTICAL,DOWNWARDS ARROW FROM,DOWNWARDS ARROW TO=BAR",
   "CIRCLE WITH LOWER HALF,CIRCLE WITH RIGHT HALF,CIRCLE WITH UPPER HALF=BLACK",
   "CIRCLE WITH SUPERIMPOSED,CIRCLED BOLD,CUNEIFORM SIGN ERIN2,FRAME WITH AN=X",
   "CIRCLE WITH TWO HORIZONTAL STROKES TO THE,COMBINING COMMA ABOVE=RIGHT",
   "CIRCLE WITH UPPER RIGHT QUADRANT,DIAMOND WITH BOTTOM HALF=BLACK",
   "CIRCLED C WITH OVERLAID,CIRCLED DOLLAR SIGN WITH OVERLAID=BACKSLASH",
   "CIRCLED CROSS FORMEE WITH FOUR,CIRCLED CROSS FORMEE WITH TWO=DOTS",
   "CIRCLED CROSS=FORMEE POMMEE",
   "CIRCLED CROSSING,CROSSING=LANES",
   "CIRCLED DIVISION=SIGN SLASH",
   "CIRCLED HANGUL CHIEUCH,CIRCLED HANGUL CIEUC,CIRCLED HANGUL HIEUH=A",
   "CIRCLED HANGUL IEUNG,PARENTHESIZED HANGUL CIEUC=A U",
   "CIRCLED HANGUL KHIEUKH,CIRCLED HANGUL KIYEOK,CIRCLED HANGUL MIEUM=A",
   "CIRCLED HANGUL NIEUN,CIRCLED HANGUL PHIEUPH,CIRCLED HANGUL PIEUP=A",
   "CIRCLED HANGUL RIEUL,CIRCLED HANGUL SIOS,CIRCLED HANGUL THIEUTH=A",
   "CIRCLED HANGUL TIKEUT,CUNEIFORM NUMERIC SIGN NINE VARIANT FORM ILIMMU=A",
   "CIRCLED HANGUL,PARENTHESIZED HANGUL=CHIEUCH CIEUC HIEUH IEUNG KHIEUKH KIYEOK MIEUM NIEUN",
   "CIRCLED HANGUL,PARENTHESIZED HANGUL=PHIEUPH PIEUP RIEUL SIOS THIEUTH TIKEUT",
   "CIRCLED HEAVY WHITE RIGHTWARDS,CLOCKWISE CLOSED CIRCLE=ARROW",
   "CIRCLED HORIZONTAL BAR WITH=NOTCH",
   "CIRCLED HUMAN,STICK=FIGURE",
   "CIRCLED IDEOGRAPH=ACCEPT ADVANTAGE ALLIANCE ATTENTION CENTRE CONGRATULATION COPY CORRECT",
   "CIRCLED IDEOGRAPH=EARTH EIGHT ENTERPRISE EXCELLENT FEMALE FINANCIAL FIRE FIVE FOUR HAVE HIGH",
   "CIRCLED IDEOGRAPH=ITEM KINDERGARTEN KOTO LABOR LEFT LOW MALE MEDICINE METAL MOON NAME NIGHT",
   "CIRCLED IDEOGRAPH=NINE ONE PRINT QUESTION RELIGION RESOURCE REST RIGHT SCHOOL SECRET SEVEN",
   "CIRCLED IDEOGRAPH=SIX SOCIETY SPECIAL STOCK STUDY SUITABLE SUN SUPERVISE TEN THREE TWO WATER",
   "CIRCLED IDEOGRAPH=WOOD",
   "CIRCLED INFORMATION,INFORMATION,SYMBOL FOR SAMARITAN=SOURCE",
   "CIRCLED ITALIC LATIN CAPITAL LETTER=C R",
   "CIRCLED KATAKANA=A E HA HE HI HO HU I KA KE KI KO KU MA ME MI MO MU NA NE NI NO NU O RA RE",
   "CIRCLED KATAKANA=RI RO RU SA SE SI SO SU TA TE TI TO TU U WA WE WI WO YA YO YU",
   "CIRCLED KOREAN CHARACTER=CHAMKO JUEUI",
   "CIRCLED LATIN CAPITAL LETTER,CIRCLED LATIN SMALL LETTER=A B C D E F G H I J K L M N O P Q R",
   "CIRCLED LATIN CAPITAL LETTER,CIRCLED LATIN SMALL LETTER=S T U V W X Y Z",
   "CIRCLED NUMBER EIGHTY ON BLACK,CIRCLED NUMBER FIFTY ON BLACK=SQUARE",
   "CIRCLED NUMBER FORTY ON BLACK,CIRCLED NUMBER SEVENTY ON BLACK=SQUARE",
   "CIRCLED NUMBER FORTY,CIRCLED NUMBER THIRTY,CIRCLED NUMBER TWENTY=EIGHT FIVE FOUR NINE ONE",
   "CIRCLED NUMBER FORTY,CIRCLED NUMBER THIRTY,CIRCLED NUMBER TWENTY=SEVEN SIX THREE TWO",
   "CIRCLED NUMBER SIXTY ON BLACK,CIRCLED NUMBER TEN ON BLACK=SQUARE",
   "CIRCLED NUMBER THIRTY ON BLACK,CIRCLED NUMBER TWENTY ON BLACK,CUP ON BLACK=SQUARE",
   "CIRCLED NUMBER=EIGHTEEN ELEVEN FIFTEEN FIFTY FORTY FOURTEEN NINETEEN SEVENTEEN SIXTEEN TEN",
   "CIRCLED NUMBER=THIRTEEN THIRTY TWELVE TWENTY",
   "CIRCLED OPEN CENTRE EIGHT POINTED,EIGHT POINTED BLACK,EIGHT POINTED PINWHEEL=STAR",
   "CIRCLED TRIANGLE=DOWN",
   "CIRCLED WHITE=BULLET STAR",
   "CIRCLED ZERO WITH,DOES NOT DIVIDE WITH REVERSED NEGATION,FRACTION=SLASH",
   "CIRCLED=BULLET CC CD DASH EQUALS GREATER-THAN LESS-THAN MINUS PARALLEL PERPENDICULAR PLUS",
   "CIRCLED=SQUARE TIMES TRIANGLE WZ X",
   "CIRCULATION,WEIERSTRASS ELLIPTIC=FUNCTION",
   "CIRCUMFLEX,COMBINING ACUTE,COMBINING CIRCUMFLEX,COMBINING DOTTED ACUTE=ACCENT",
   "CIRCUS=TENT",
   "CITYSCAPE AT=DUSK",
   "CJK RADICAL BOLT OF,KANGXI RADICAL BOLT OF,LINEAR B IDEOGRAM B159=CLOTH",
   "CJK RADICAL BRUSH,CJK RADICAL HEART,CJK RADICAL KNIFE,CJK RADICAL LONG=ONE TWO",
   "CJK RADICAL C-SIMPLIFIED TANNED,KANGXI RADICAL TANNED=LEATHER",
   "CJK RADICAL C-SIMPLIFIED=BIRD CART DRAGON EAT EVEN FISH FLY FROG GATE GOLD HORSE LEAF LONG",
   "CJK RADICAL C-SIMPLIFIED=SALT SEE SHELL SILK SPEECH TOOTH TURTLE WIND",
   "CJK RADICAL EAT,CJK RADICAL GRASS,CJK RADICAL SECOND=ONE THREE TWO",
   "CJK RADICAL J-SIMPLIFIED=DRAGON EVEN TOOTH TURTLE",
   "CJK RADICAL MOUND,CJK RADICAL PAW,CJK RADICAL SMALL,CJK RADICAL SNOUT=ONE TWO",
   "CJK RADICAL SIMPLIFIED HALF TREE,KANGXI RADICAL HALF TREE=TRUNK",
   "CJK RADICAL SIMPLIFIED=HORN WALK WHEAT YELLOW",
   "CJK RADICAL SPIRIT,CJK RADICAL WALK,CJK RADICAL WATER,CJK RADICAL WEST=ONE TWO",
   "CJK RADICAL=BAMBOO BLUE BONE BOX CHOKE CITY CIVILIAN CLIFF CLOTHES COW DEATH DIVINATION DOG",
   "CJK RADICAL=EWE EYE FIRE FOOT GHOST HAND HEAD HORN JADE MEAT MESH MOON MORTAR MOTHER OLD",
   "CJK RADICAL=PERSON RAIN RAM RAP REPEAT SEAL SHEEP SILK SNAKE SUN TABLE THREAD TIGER TURTLE",
   "CJK STROKE=BXG D H HG HP HPWG HXWG HZ HZG HZT HZW HZWG HZZ HZZP HZZZ HZZZG N P PD PG PZ Q S",
   "CJK STROKE=SG SP ST SW SWG SWZ SZ SZWG SZZ T TN WG XG",
   "CLAMSHELL MOBILE,MOBILE=PHONE",
   "CLAPPING HANDS,COMBINING CYRILLIC HUNDRED MILLIONS=SIGN",
   "CLASSICAL,DERELICT HOUSE,OFFICE=BUILDING",
   "CLINKING BEER=MUGS",
   "CLINKING=GLASSES",
   "CLOCK FACE EIGHT,CLOCK FACE ELEVEN,CLOCK FACE FIVE,CLOCK FACE FOUR=OCLOCK",
   "CLOCK FACE NINE,CLOCK FACE ONE,CLOCK FACE SEVEN,CLOCK FACE SIX=OCLOCK",
   "CLOCK FACE TEN,CLOCK FACE THREE,CLOCK FACE TWELVE,CLOCK FACE TWO=OCLOCK",
   "CLOCK FACE=EIGHT-THIRTY ELEVEN-THIRTY FIVE-THIRTY FOUR-THIRTY NINE-THIRTY ONE-THIRTY",
   "CLOCK FACE=SEVEN-THIRTY SIX-THIRTY TEN-THIRTY THREE-THIRTY TWELVE-THIRTY TWO-THIRTY",
   "CLOCKWISE DOWNWARDS AND UPWARDS OPEN CIRCLE=ARROWS",
   "CLOCKWISE GAPPED CIRCLE,CLOCKWISE OPEN CIRCLE,CLOCKWISE TOP SEMICIRCLE=ARROW",
   "CLOCKWISE RIGHT AND LEFT SEMICIRCLE=ARROWS",
   "CLOCKWISE RIGHTWARDS AND LEFTWARDS OPEN CIRCLE ARROWS WITH CIRCLED ONE=OVERLAY",
   "CLOCKWISE RIGHTWARDS AND LEFTWARDS OPEN CIRCLE,DOWNWARDS PAIRED=ARROWS",
   "CLOCKWISE TRIANGLE-HEADED OPEN CIRCLE,COMBINING DOWNWARDS=ARROW",
   "CLOSE,LEFTWARDS HARPOON WITH BARB UP ABOVE RIGHTWARDS HARPOON WITH BARB=UP",
   "CLOSED INTERSECTION WITH,CLOSED UNION WITH=SERIFS",
   "CLOSED LOCK WITH,HORIZONTAL TAB,OLD,OPTION,VERTICAL TAB=KEY",
   "CLOSED SUPERSET OR EQUAL,CONTAINS AS NORMAL SUBGROUP OR EQUAL,CORRESPONDS=TO",
   "CLOSED UNION WITH SERIFS AND SMASH,INTERIOR,LEFT NORMAL FACTOR SEMIDIRECT=PRODUCT",
   "CLOSED=BOOK SUBSET SUPERSET UMBRELLA",
   "CLOUD WITH=LIGHTNING RAIN SNOW TORNADO",
   "COCKTAIL,LEFT-POINTING MAGNIFYING,RIGHT-POINTING MAGNIFYING,TUMBLER,WINE=GLASS",
   "COLON=EQUALS SIGN",
   "COMBINING ACUTE ACCENT,COMBINING BINDU,COMBINING BREVE,COMBINING CARON=BELOW",
   "COMBINING ANTICLOCKWISE RING,COMBINING CLOCKWISE RING=OVERLAY",
   "COMBINING BRIDGE,COMBINING COMMA,COMBINING DOT,COMBINING DOUBLE PLUS SIGN=ABOVE BELOW",
   "COMBINING CIRCUMFLEX ACCENT,COMBINING CONJOINING MACRON,COMBINING DIAERESIS=BELOW",
   "COMBINING CLOCKWISE ARROW,COMBINING DOUBLE CIRCUMFLEX=ABOVE",
   "COMBINING CONJOINING,LATIN CAPITAL LETTER A WITH DIAERESIS AND=MACRON",
   "COMBINING CYRILLIC DASIA,COMBINING CYRILLIC PSILI=PNEUMATA",
   "COMBINING CYRILLIC HUNDRED THOUSANDS,COMBINING CYRILLIC LETTER HARD=SIGN",
   "COMBINING CYRILLIC LETTER BIG,COMBINING CYRILLIC LETTER IOTIFIED BIG=YUS",
   "COMBINING CYRILLIC LETTER IOTIFIED=A E",
   "COMBINING CYRILLIC LETTER LITTLE,COMBINING GLAGOLITIC LETTER BIG=YUS",
   "COMBINING CYRILLIC LETTER MONOGRAPH,CYRILLIC CAPITAL LETTER MONOGRAPH=UK",
   "COMBINING CYRILLIC LETTER SOFT,COMBINING CYRILLIC MILLIONS=SIGN",
   "COMBINING CYRILLIC LETTER UKRAINIAN,CYRILLIC CAPITAL LETTER UKRAINIAN=IE",
   "COMBINING CYRILLIC LETTER=A BE CHE DE DJERV EF EL EM EN ER ES ES-TE FITA GHE HA I IE KA O",
   "COMBINING CYRILLIC LETTER=OMEGA PE SHA SHCHA TE TSE U VE YAT YERU YI YU ZE ZHE",
   "COMBINING CYRILLIC TEN MILLIONS,COMBINING CYRILLIC THOUSAND MILLIONS=SIGN",
   "COMBINING CYRILLIC TITLO LEFT,COMBINING CYRILLIC TITLO RIGHT=HALF",
   "COMBINING CYRILLIC=KAVYKA PALATALIZATION PAYEROK POKRYTIE TITLO VZMET",
   "COMBINING DEVANAGARI DIGIT,DEVANAGARI DIGIT,DIGIT=EIGHT FIVE FOUR NINE ONE SEVEN SIX THREE",
   "COMBINING DEVANAGARI DIGIT,DEVANAGARI DIGIT,DIGIT=TWO ZERO",
   "COMBINING DEVANAGARI LETTER=A KA NA PA RA U VI",
   "COMBINING DEVANAGARI SIGN,SUNDANESE=AVAGRAHA",
   "COMBINING DOTTED GRAVE,COMBINING DOUBLE ACUTE,COMBINING DOUBLE GRAVE=ACCENT",
   "COMBINING DOUBLE BREVE,COMBINING DOUBLE INVERTED BREVE=BELOW",
   "COMBINING DOUBLE INVERTED,COMBINING INVERTED=BREVE",
   "COMBINING DOUBLE MACRON,COMBINING DOUBLE OPEN MARK=BELOW",
   "COMBINING DOUBLE PARENTHESES,COMBINING FOUR DOTS,COMBINING HOMOTHETIC=ABOVE",
   "COMBINING DOUBLE RIGHTWARDS ARROW,COMBINING DOUBLE RING,COMBINING DOWN TACK=BELOW",
   "COMBINING DOUBLE TILDE LEFT,COMBINING DOUBLE TILDE RIGHT=HALF",
   "COMBINING DOUBLE VERTICAL LINE,COMBINING INVERTED DOUBLE ARCH=ABOVE BELOW",
   "COMBINING DOUBLE VERTICAL STROKE,COMBINING LEFTWARDS ARROW=OVERLAY",
   "COMBINING DOUBLE=BREVE MACRON OVERLINE TILDE",
   "COMBINING DOUBLED CIRCUMFLEX,COMBINING GRAVE,COMBINING TRIPLE ACUTE=ACCENT",
   "COMBINING ENCLOSING CIRCLE,OCR DOUBLE=BACKSLASH",
   "COMBINING ENCLOSING=CIRCLE DIAMOND KEYCAP SCREEN SQUARE",
   "COMBINING EQUALS SIGN,COMBINING GRAVE ACCENT,COMBINING INVERTED BREVE=BELOW",
   "COMBINING GLAGOLITIC LETTER INITIAL,GLAGOLITIC CAPITAL LETTER INITIAL=IZHE",
   "COMBINING GLAGOLITIC LETTER IOTATED BIG=YUS",
   "COMBINING GLAGOLITIC LETTER IOTATED SMALL,COMBINING GLAGOLITIC LETTER SMALL=YUS",
   "COMBINING GLAGOLITIC LETTER=AZU BUKY CHRIVI DJERVI DOBRO FITA FRITU GLAGOLI HERU I IZHE KAKO",
   "COMBINING GLAGOLITIC LETTER=LJUDIJE MYSLITE NASHI ONU POKOJI RITSI SHA SHTA SLOVO TSI TVRIDO",
   "COMBINING GLAGOLITIC LETTER=UKU VEDE YATI YERI YERU YESTU YO YU ZEMLJA ZHIVETE",
   "COMBINING GRANTHA DIGIT=FIVE FOUR ONE SIX THREE TWO ZERO",
   "COMBINING GRANTHA LETTER=A KA NA PA VI",
   "COMBINING GRAPHEME,EGYPTIAN HIEROGLYPH HORIZONTAL=JOINER",
   "COMBINING GRAVE TONE,COMBINING KATAKANA-HIRAGANA SEMI-VOICED SOUND=MARK",
   "COMBINING GREEK DIALYTIKA,GREEK DIALYTIKA=TONOS",
   "COMBINING GREEK MUSICAL=PENTASEME TETRASEME TRISEME",
   "COMBINING GREEK=KORONIS PERISPOMENI YPOGEGRAMMENI",
   "COMBINING HOOK,COMBINING LATIN SMALL LETTER FLATTENED OPEN A=ABOVE",
   "COMBINING INVERTED BRIDGE,COMBINING IS,COMBINING LATIN SMALL LETTER TURNED W=BELOW",
   "COMBINING KATAKANA-HIRAGANA VOICED SOUND,COMBINING SUSPENSION=MARK",
   "COMBINING KAVYKA ABOVE,DENTISTRY SYMBOL LIGHT VERTICAL AND BOTTOM=LEFT RIGHT",
   "COMBINING LATIN LETTER SMALL CAPITAL=G L M N R",
   "COMBINING LATIN SMALL LETTER C=CEDILLA",
   "COMBINING LATIN SMALL LETTER INSULAR=D G R T",
   "COMBINING LATIN SMALL LETTER L WITH DOUBLE MIDDLE,COMBINING VERTICAL=TILDE",
   "COMBINING LATIN SMALL LETTER O WITH LIGHT CENTRALIZATION=STROKE",
   "COMBINING LATIN SMALL LETTER O WITH,COMBINING LATIN SMALL LETTER U WITH=DIAERESIS",
   "COMBINING LATIN SMALL LETTER R=BELOW ROTUNDA",
   "COMBINING LATIN SMALL LETTER U WITH LIGHT CENTRALIZATION=STROKE",
   "COMBINING LATIN SMALL LETTER W,COMBINING LEFT TACK=BELOW",
   "COMBINING LATIN SMALL LETTER=A AE ALPHA AO AV B BETA C D E ESH ETH F G H I K L M N O P R S",
   "COMBINING LATIN SMALL LETTER=SCHWA T U V W X Z",
   "COMBINING LEFT ANGLE,COMBINING LEFT ARROW,COMBINING LEFT ARROWHEAD=ABOVE BELOW",
   "COMBINING LEFT HALF RING,COMBINING LEFT RIGHT ARROW,COMBINING PLUS SIGN=ABOVE BELOW",
   "COMBINING LEFT HARPOON,COMBINING NOT TILDE,COMBINING NUMBER SIGN=ABOVE",
   "COMBINING LEFT PARENTHESIS ABOVE,COMBINING LEFT PARENTHESIS BELOW=LEFT",
   "COMBINING LEFTWARDS HARPOON WITH BARB=DOWNWARDS",
   "COMBINING LIGATURE LEFT HALF,COMBINING LIGATURE RIGHT HALF=BELOW",
   "COMBINING LIGATURE LEFT,COMBINING LIGATURE RIGHT,COMBINING MACRON LEFT=HALF",
   "COMBINING LIGHT CENTRALIZATION STROKE,COMBINING MACRON=BELOW",
   "COMBINING LONG DOUBLE SOLIDUS,COMBINING LONG SOLIDUS,COMBINING LONG STROKE=OVERLAY",
   "COMBINING LONG VERTICAL LINE,COMBINING REVERSE SOLIDUS=OVERLAY",
   "COMBINING MACRON LEFT HALF,COMBINING MACRON RIGHT HALF,COMBINING MINUS SIGN=BELOW",
   "COMBINING MACRON RIGHT,COPTIC FRACTION ONE,KHAROSHTHI FRACTION ONE=HALF",
   "COMBINING OGONEK,COMBINING REVERSED COMMA,COMBINING RIGHT HARPOON=ABOVE",
   "COMBINING OLD PERMIC LETTER=AN DOI NENOE SII ZATA",
   "COMBINING OPEN MARK,COMBINING PALATALIZED HOOK,COMBINING RETROFLEX HOOK=BELOW",
   "COMBINING PARENTHESES,COMBINING RING=ABOVE BELOW OVERLAY",
   "COMBINING RIGHT ARROW,COMBINING RIGHT ARROWHEAD,COMBINING RIGHT HALF RING=ABOVE BELOW",
   "COMBINING RIGHT ARROWHEAD AND DOWN ARROWHEAD=BELOW",
   "COMBINING RIGHT ARROWHEAD AND UP ARROWHEAD,COMBINING RIGHT TACK=BELOW",
   "COMBINING RIGHT PARENTHESIS ABOVE,COMBINING RIGHT PARENTHESIS BELOW=RIGHT",
   "COMBINING RIGHTWARDS HARPOON WITH BARB,RIGHTWARDS ARROW WITH CORNER=DOWNWARDS",
   "COMBINING SEAGULL,COMBINING SNAKE,COMBINING SQUARE=BELOW",
   "COMBINING SHORT SOLIDUS,COMBINING SHORT STROKE=OVERLAY",
   "COMBINING SHORT VERTICAL LINE,LATIN CAPITAL LETTER D WITH SHORT STROKE=OVERLAY",
   "COMBINING SQUARE BRACKETS,COMBINING THREE DOTS,COMBINING TURNED COMMA=ABOVE",
   "COMBINING STRONG CENTRALIZATION STROKE,COMBINING TILDE LEFT HALF=BELOW",
   "COMBINING TILDE RIGHT HALF,COMBINING UPWARDS ARROW=BELOW",
   "COMBINING TILDE=BELOW OVERLAY",
   "COMBINING TRIPLE=DOT UNDERDOT",
   "COMBINING UP TACK,COMBINING VERTICAL LINE,COMBINING X,COMBINING ZIGZAG=ABOVE BELOW",
   "COMBINING UR,COMBINING US,COMBINING WIDE BRIDGE,CONGRUENT WITH DOT=ABOVE",
   "COMBINING WIDE INVERTED BRIDGE,COMBINING WIGGLY LINE,COMBINING X-X=BELOW",
   "COMBINING=ACUTE-GRAVE-ACUTE ACUTE-MACRON BREVE BREVE-MACRON CANDRABINDU CARON CEDILLA",
   "COMBINING=DIAERESIS DIAERESIS-RING FERMATA GRAVE-ACUTE-GRAVE GRAVE-MACRON HORN INFINITY",
   "COMBINING=MACRON MACRON-ACUTE MACRON-BREVE MACRON-GRAVE OGONEK OVERLINE TILDE",
   "COMMERCIAL MINUS,COPYRIGHT,CRUZEIRO,CYRILLIC CAPITAL LETTER HARD=SIGN",
   "COMMERCIAL,FULLWIDTH COMMERCIAL,SMALL COMMERCIAL,TAG COMMERCIAL=AT",
   "CONFETTI,CRICKET BAT AND,CRYSTAL,FIELD HOCKEY STICK AND,LACROSSE STICK AND=BALL",
   "CONICAL=TAPER",
   "CONSTRUCTION=SIGN WORKER",
   "CONTAINS AS NORMAL,DOES NOT CONTAIN AS NORMAL=SUBGROUP",
   "CONTAINS AS,DOES NOT CONTAIN AS,SMALL CONTAINS AS=MEMBER",
   "CONTAINS WITH LONG HORIZONTAL=STROKE",
   "CONTAINS WITH VERTICAL BAR AT END OF HORIZONTAL=STROKE",
   "CONTAINS WITH,EMPTY SET WITH,SHORT DOWN TACK WITH,SMALL CONTAINS WITH=OVERBAR",
   "CONTINUOUS UNDERLINE,COPYLEFT,DALET,DASH,DECIMAL EXPONENT=SYMBOL",
   "CONTROL SEQUENCE,SINGLE CHARACTER,SINGLE GRAPHIC CHARACTER=INTRODUCER",
   "CONTROL=KNOBS",
   "CONVENIENCE,DEPARTMENT=STORE",
   "COOKED,CURRY AND=RICE",
   "COPTIC CAPITAL LETTER AKHMIMIC,COPTIC CAPITAL LETTER BOHAIRIC=KHEI",
   "COPTIC CAPITAL LETTER CROSSED,COPTIC SMALL LETTER CROSSED=SHEI",
   "COPTIC CAPITAL LETTER CRYPTOGRAMMIC,COPTIC SMALL LETTER CRYPTOGRAMMIC=EIE GANGIA NI SHEI",
   "COPTIC CAPITAL LETTER DIALECT-P,COPTIC SMALL LETTER DIALECT-P=ALEF HORI KAPA NI",
   "COPTIC CAPITAL LETTER L-SHAPED,COPTIC SMALL LETTER L-SHAPED=HA",
   "COPTIC CAPITAL LETTER OLD COPTIC,COPTIC SMALL LETTER OLD COPTIC=AIN DJA ESH GANGIA HA HAT",
   "COPTIC CAPITAL LETTER OLD COPTIC,COPTIC SMALL LETTER OLD COPTIC=HEI HORI OOU SHEI SHIMA",
   "COPTIC CAPITAL LETTER OLD NUBIAN,COPTIC SMALL LETTER OLD NUBIAN=NGI NYI SHIMA WAU",
   "COPTIC CAPITAL LETTER,COPTIC SMALL LETTER=ALFA DALDA DEI EIE FEI FI GAMMA GANGIA HATE HORI",
   "COPTIC CAPITAL LETTER,COPTIC SMALL LETTER=IAUDA KAPA KHEI KHI KSI LAULA MI NI O OOU PI PSI",
   "COPTIC CAPITAL LETTER,COPTIC SMALL LETTER=RO SAMPI SHEI SHIMA SIMA SOU TAU THETHE UA VIDA",
   "COPTIC CAPITAL LETTER,COPTIC SMALL LETTER=ZATA",
   "COPTIC COMBINING NI,DUPLOYAN LETTER J WITH DOTS INSIDE AND=ABOVE",
   "COPTIC COMBINING SPIRITUS=ASPER LENIS",
   "COPTIC EPACT DIGIT,COUNTING ROD TENS DIGIT,COUNTING ROD UNIT DIGIT=EIGHT FIVE FOUR NINE ONE",
   "COPTIC EPACT DIGIT,COUNTING ROD TENS DIGIT,COUNTING ROD UNIT DIGIT=SEVEN SIX THREE TWO",
   "COPTIC EPACT NUMBER FOUR,COPTIC EPACT NUMBER NINE,COPTIC EPACT NUMBER ONE=HUNDRED",
   "COPTIC EPACT NUMBER SEVEN,COPTIC EPACT NUMBER SIX,COPTIC EPACT NUMBER THREE=HUNDRED",
   "COPTIC EPACT NUMBER TWO,GOTHIC LETTER NINE,GREEK ACROPHONIC CARYSTIAN FIVE=HUNDRED",
   "COPTIC EPACT NUMBER,RUMI NUMBER,SINHALA ARCHAIC NUMBER,WARANG CITI NUMBER=EIGHTY FIFTY FORTY",
   "COPTIC EPACT NUMBER,RUMI NUMBER,SINHALA ARCHAIC NUMBER,WARANG CITI NUMBER=NINETY SEVENTY",
   "COPTIC EPACT NUMBER,RUMI NUMBER,SINHALA ARCHAIC NUMBER,WARANG CITI NUMBER=SIXTY TEN THIRTY",
   "COPTIC EPACT NUMBER,RUMI NUMBER,SINHALA ARCHAIC NUMBER,WARANG CITI NUMBER=TWENTY",
   "COPTIC EPACT THOUSANDS,COPTIC OLD NUBIAN DIRECT QUESTION=MARK",
   "COPTIC MORPHOLOGICAL,COPTIC OLD NUBIAN VERSE,CORNISH VERSE=DIVIDER",
   "COPTIC OLD NUBIAN INDIRECT QUESTION,DITTO,DIVES AKURU END OF TEXT=MARK",
   "COPTIC SMALL LETTER AKHMIMIC,COPTIC SMALL LETTER BOHAIRIC=KHEI",
   "COPTIC SYMBOL KHI,COPTIC SYMBOL MI,COPTIC SYMBOL PI,COPTIC SYMBOL TAU=RO",
   "COPTIC SYMBOL SHIMA=SIMA",
   "COPTIC SYMBOL=KAI STAUROS",
   "COUCH AND,DIYA=LAMP",
   "COW,CRYING,CRYING CAT,DISAPPOINTED,DISAPPOINTED BUT RELIEVED,DISGUISED,DOG=FACE",
   "CREDIT,IDENTIFICATION=CARD",
   "CRESCENT,FIRST QUARTER,LAST QUARTER=MOON",
   "CROSS OF=JERUSALEM LORRAINE",
   "CROSS PATTY WITH LEFT,CROSS PATTY WITH RIGHT=CROSSBAR",
   "CROSS POMMEE WITH HALF-CIRCLE,DOWN TACK WITH CIRCLE=BELOW",
   "CROSS=MARK POMMEE",
   "CROSSED NEGATIVE SQUARED LATIN CAPITAL LETTER,RUNIC LETTER PERTHO PEORTH=P",
   "CROSSED=FLAGS SWORDS",
   "CUNEIFORM NUMERIC SIGN EIGHT U VARIANT=FORM",
   "CUNEIFORM NUMERIC SIGN EIGHT VARIANT FORM=USSU USSU3",
   "CUNEIFORM NUMERIC SIGN EIGHT,CUNEIFORM NUMERIC SIGN NINE=ASH DISH GESH2 SHAR2 U",
   "CUNEIFORM NUMERIC SIGN ELAMITE ONE=THIRD",
   "CUNEIFORM NUMERIC SIGN ELAMITE TWO,HEAVY ARROW SHAFT WIDTH TWO=THIRDS",
   "CUNEIFORM NUMERIC SIGN ELAMITE=FIFTY FORTY",
   "CUNEIFORM NUMERIC SIGN FIVE ASH,CUNEIFORM NUMERIC SIGN FOUR ASH=TENU",
   "CUNEIFORM NUMERIC SIGN FIVE BAN2 VARIANT,CUNEIFORM NUMERIC SIGN FIVE U VARIANT=FORM",
   "CUNEIFORM NUMERIC SIGN FIVE SIXTHS,CUNEIFORM NUMERIC SIGN ONE THIRD=DISH",
   "CUNEIFORM NUMERIC SIGN FIVE,CUNEIFORM NUMERIC SIGN FOUR=ASH BAN2 BURU DISH GESH2 GESHU SHAR2",
   "CUNEIFORM NUMERIC SIGN FIVE,CUNEIFORM NUMERIC SIGN FOUR=SHARU U",
   "CUNEIFORM NUMERIC SIGN FOUR BAN2 VARIANT,CUNEIFORM NUMERIC SIGN FOUR U VARIANT=FORM",
   "CUNEIFORM NUMERIC SIGN FOUR VARIANT FORM LIMMU=A B",
   "CUNEIFORM NUMERIC SIGN FOUR VARIANT FORM=LIMMU LIMMU4",
   "CUNEIFORM NUMERIC SIGN NINE U VARIANT,CUNEIFORM NUMERIC SIGN SEVEN U VARIANT=FORM",
   "CUNEIFORM NUMERIC SIGN NINE VARIANT FORM=ILIMMU ILIMMU3 ILIMMU4",
   "CUNEIFORM NUMERIC SIGN OLD ASSYRIAN ONE=QUARTER SIXTH",
   "CUNEIFORM NUMERIC SIGN ONE EIGHTH,CUNEIFORM SIGN ASH OVER ASH OVER=ASH",
   "CUNEIFORM NUMERIC SIGN ONE HALF=GUR",
   "CUNEIFORM NUMERIC SIGN ONE QUARTER=ASH GUR",
   "CUNEIFORM NUMERIC SIGN ONE THIRD VARIANT FORM=A",
   "CUNEIFORM NUMERIC SIGN ONE=BAN2 BURU ESHE3 GESH2 GESHU SHARU",
   "CUNEIFORM NUMERIC SIGN SEVEN VARIANT FORM IMIN=A B",
   "CUNEIFORM NUMERIC SIGN SEVEN VARIANT FORM=IMIN3",
   "CUNEIFORM NUMERIC SIGN SEVEN,CUNEIFORM NUMERIC SIGN SIX=ASH DISH GESH2 SHAR2 U",
   "CUNEIFORM NUMERIC SIGN SHAR2 TIMES GAL PLUS=DISH MIN",
   "CUNEIFORM NUMERIC SIGN SIX ASH,CUNEIFORM NUMERIC SIGN THREE ASH=TENU",
   "CUNEIFORM NUMERIC SIGN SIX U VARIANT,CUNEIFORM NUMERIC SIGN THREE BURU VARIANT=FORM",
   "CUNEIFORM NUMERIC SIGN SIX VARIANT FORM=ASH9",
   "CUNEIFORM NUMERIC SIGN THREE SHAR2 VARIANT=FORM",
   "CUNEIFORM NUMERIC SIGN THREE SHARU VARIANT,CUNEIFORM SIGN KU4 VARIANT=FORM",
   "CUNEIFORM NUMERIC SIGN THREE VARIANT FORM=ESH16 ESH21",
   "CUNEIFORM NUMERIC SIGN THREE=ASH BAN2 BURU DISH GESH2 GESHU SHAR2 SHARU",
   "CUNEIFORM NUMERIC SIGN TWO ASH,CUNEIFORM SIGN A TIMES GAN2=TENU",
   "CUNEIFORM NUMERIC SIGN TWO THIRDS VARIANT FORM=A",
   "CUNEIFORM NUMERIC SIGN TWO THIRDS,CUNEIFORM SIGN DIN KASKAL U GUNU=DISH",
   "CUNEIFORM NUMERIC SIGN TWO=ASH BAN2 BURU ESHE3 GESH2 GESHU SHAR2 SHARU",
   "CUNEIFORM NUMERIC SIGN=NIGIDAESH NIGIDAMIN",
   "CUNEIFORM PUNCTUATION SIGN DIAGONAL=COLON QUADCOLON TRICOLON",
   "CUNEIFORM PUNCTUATION SIGN OLD ASSYRIAN WORD,OLD PERSIAN WORD,UGARITIC WORD=DIVIDER",
   "CUNEIFORM PUNCTUATION SIGN VERTICAL,ETHIOPIC PREFACE=COLON",
   "CUNEIFORM SIGN A TIMES LAGAR,CUNEIFORM SIGN AB,CUNEIFORM SIGN AB TIMES DUN3=GUNU",
   "CUNEIFORM SIGN A TIMES=A BAD HA IGI MUSH SAG",
   "CUNEIFORM SIGN AB TIMES GAN2,CUNEIFORM SIGN AB TIMES NUN=TENU",
   "CUNEIFORM SIGN AB TIMES IGI,CUNEIFORM SIGN BI TIMES IGI=GUNU",
   "CUNEIFORM SIGN AB TIMES U PLUS U PLUS,CUNEIFORM SIGN DIM TIMES U U=U",
   "CUNEIFORM SIGN AB TIMES=ASH2 GAL HA IMIN LAGAB NUN SHESH SHU2",
   "CUNEIFORM SIGN AB2 TIMES GAN2,CUNEIFORM SIGN ASH KABA,CUNEIFORM SIGN ASH ZIDA=TENU",
   "CUNEIFORM SIGN AB2 TIMES ME PLUS,CUNEIFORM SIGN EN CROSSING=EN",
   "CUNEIFORM SIGN AB2 TIMES=A BALAG SHA3 TAK4",
   "CUNEIFORM SIGN AD TIMES,CUNEIFORM SIGN ESH2 CROSSING=ESH2",
   "CUNEIFORM SIGN AK TIMES SHITA PLUS,CUNEIFORM SIGN DUG TIMES LUH PLUS=GISH",
   "CUNEIFORM SIGN AK TIMES,CUNEIFORM SIGN LAGAB TIMES SHITA PLUS GISH PLUS=ERIN2",
   "CUNEIFORM SIGN AL TIMES=AL DIM2 GISH HA KAD3 KI SHE USH",
   "CUNEIFORM SIGN AMAR TIMES=KUG SHE",
   "CUNEIFORM SIGN AN OVER,CUNEIFORM SIGN GA2 TIMES KU3 PLUS=AN",
   "CUNEIFORM SIGN AN PLUS NAGA OPPOSING AN PLUS,CUNEIFORM SIGN NAGA OPPOSING=NAGA",
   "CUNEIFORM SIGN AN PLUS NAGA,CUNEIFORM SIGN EN=SQUARED",
   "CUNEIFORM SIGN AN THREE=TIMES",
   "CUNEIFORM SIGN ARAD TIMES,CUNEIFORM SIGN DAG TIMES=KUR",
   "CUNEIFORM SIGN ASH OVER ASH OVER ASH CROSSING ASH OVER ASH OVER=ASH",
   "CUNEIFORM SIGN ASH OVER ASH TUG2 OVER TUG2 TUG2 OVER TUG2=PAP",
   "CUNEIFORM SIGN BAD TIMES DISH,CUNEIFORM SIGN EN TIMES GAN2=TENU",
   "CUNEIFORM SIGN BAHAR2 TIMES=AB2 NI ZA",
   "CUNEIFORM SIGN BAL OVER=BAL",
   "CUNEIFORM SIGN BI TIMES=A GAR",
   "CUNEIFORM SIGN BU CROSSING,CUNEIFORM SIGN LU2 TIMES SIK2 PLUS=BU",
   "CUNEIFORM SIGN BU OVER BU TIMES=NA2",
   "CUNEIFORM SIGN BU OVER BU=AB UN",
   "CUNEIFORM SIGN BULUG OVER=BULUG",
   "CUNEIFORM SIGN DA TIMES,CUNEIFORM SIGN GUD PLUS GISH TIMES=TAK4",
   "CUNEIFORM SIGN DAG KISIM5 TIMES A PLUS,CUNEIFORM SIGN DAG KISIM5 TIMES GA PLUS=MASH",
   "CUNEIFORM SIGN DAG KISIM5 TIMES IR PLUS,MENDE KIKAKUI SYLLABLE M027=LU",
   "CUNEIFORM SIGN DAG KISIM5 TIMES LU PLUS=MASH2",
   "CUNEIFORM SIGN DAG KISIM5 TIMES PAP PLUS,CUNEIFORM SIGN E TIMES=PAP",
   "CUNEIFORM SIGN DAG KISIM5 TIMES U2 PLUS=GIR2 MASH",
   "CUNEIFORM SIGN DAG KISIM5 TIMES=AMAR BALAG BI GA GI GIR2 GUD HA IR KAK LA LU LUM NE SI TAK4",
   "CUNEIFORM SIGN DAG KISIM5 TIMES=USH",
   "CUNEIFORM SIGN DIM TIMES=IGI SHE",
   "CUNEIFORM SIGN DIM2 TIMES,CUNEIFORM SIGN IGI OVER IGI SHIR OVER SHIR UD OVER=UD",
   "CUNEIFORM SIGN DISH PLUS,CUNEIFORM SIGN SHU OVER INVERTED=SHU",
   "CUNEIFORM SIGN DU OVER,CUNEIFORM SIGN GA2 TIMES UD PLUS,LINEAR B SYLLABLE B051=DU",
   "CUNEIFORM SIGN DU=GUNU SHESHIG",
   "CUNEIFORM SIGN DUB TIMES=ESH2 SHE",
   "CUNEIFORM SIGN DUG TIMES ASH AT,CUNEIFORM SIGN SAG TIMES SHE AT=LEFT",
   "CUNEIFORM SIGN DUG TIMES GIR2,CUNEIFORM SIGN DUG TIMES IGI=GUNU",
   "CUNEIFORM SIGN DUG TIMES KUSHU2 PLUS,CUNEIFORM SIGN GA2 TIMES DUG TIMES=KASKAL",
   "CUNEIFORM SIGN DUG TIMES LAM TIMES,CUNEIFORM SIGN GA2 TIMES LAM TIMES=KUR",
   "CUNEIFORM SIGN DUG TIMES SI,CUNEIFORM SIGN DUN3,CUNEIFORM SIGN DUN3 GUNU=GUNU",
   "CUNEIFORM SIGN DUG TIMES=ANSHE ASH DIN DUN ERIN2 GA GI GISH HA HI KASKAL KUR KUSHU2 LAK-020",
   "CUNEIFORM SIGN DUG TIMES=LAM MASH MES MI NI PI SHE",
   "CUNEIFORM SIGN E OVER E NUN OVER,CUNEIFORM SIGN GA2 TIMES NUN OVER=NUN",
   "CUNEIFORM SIGN E2 TIMES A PLUS HA PLUS,CUNEIFORM SIGN UM TIMES ME PLUS=DA",
   "CUNEIFORM SIGN E2 TIMES=GAR KUR MI PAP SAL SHE U",
   "CUNEIFORM SIGN EN OPPOSING,CUNEIFORM SIGN GA2 TIMES ME PLUS=EN",
   "CUNEIFORM SIGN EN TIMES=GAN2 ME",
   "CUNEIFORM SIGN EZEN SHESHIG TIMES IGI,CUNEIFORM SIGN EZEN TIMES DUN3=GUNU",
   "CUNEIFORM SIGN EZEN SHESHIG TIMES=ASH HI LA LAL ME MES SU",
   "CUNEIFORM SIGN EZEN TIMES A PLUS,CUNEIFORM SIGN EZEN TIMES A PLUS LAL TIMES=LAL",
   "CUNEIFORM SIGN EZEN TIMES DUN3 GUNU,CUNEIFORM SIGN EZEN TIMES HA=GUNU",
   "CUNEIFORM SIGN EZEN TIMES IGI,CUNEIFORM SIGN GA,CUNEIFORM SIGN GA2 TIMES DIM=GUNU",
   "CUNEIFORM SIGN EZEN TIMES KASKAL,CUNEIFORM SIGN IM,CUNEIFORM SIGN LAGAB=SQUARED",
   "CUNEIFORM SIGN EZEN TIMES LAL TIMES,CUNEIFORM SIGN GA2 TIMES KID PLUS=LAL",
   "CUNEIFORM SIGN EZEN TIMES=A AN BAD GUD HA KASKAL KU3 LA LI LU SHE SU U2 UD",
   "CUNEIFORM SIGN GA2 OVER=GA2",
   "CUNEIFORM SIGN GA2 TIMES A PLUS DA PLUS=HA",
   "CUNEIFORM SIGN GA2 TIMES A PLUS=HA IGI",
   "CUNEIFORM SIGN GA2 TIMES AB2 TENU PLUS=TAB",
   "CUNEIFORM SIGN GA2 TIMES AN PLUS KAK PLUS,CUNEIFORM SIGN GA2 TIMES GI4 PLUS=A",
   "CUNEIFORM SIGN GA2 TIMES ASH2 PLUS=GAL",
   "CUNEIFORM SIGN GA2 TIMES BUR PLUS,DIVES AKURU INITIAL,LINEAR B SYLLABLE B060=RA",
   "CUNEIFORM SIGN GA2 TIMES DIM TIMES,CUNEIFORM SIGN GUM TIMES=SHE",
   "CUNEIFORM SIGN GA2 TIMES DUG TIMES IGI,CUNEIFORM SIGN GA2 TIMES IGI=GUNU",
   "CUNEIFORM SIGN GA2 TIMES EL PLUS,CUNEIFORM SIGN GA2 TIMES HAL PLUS,LAO KO=LA",
   "CUNEIFORM SIGN GA2 TIMES EN TIMES GAN2,CUNEIFORM SIGN GA2 TIMES GAN2=TENU",
   "CUNEIFORM SIGN GA2 TIMES GAR PLUS=DI NE",
   "CUNEIFORM SIGN GA2 TIMES GIR2 PLUS,CUNEIFORM SIGN SU OVER,LINEAR B SYLLABLE B058=SU",
   "CUNEIFORM SIGN GA2 TIMES HA PLUS LU PLUS=ESH2",
   "CUNEIFORM SIGN GA2 TIMES HA PLUS,CUNEIFORM SIGN I=A",
   "CUNEIFORM SIGN GA2 TIMES HI PLUS,MENDE KIKAKUI SYLLABLE M025=LI",
   "CUNEIFORM SIGN GA2 TIMES ISH PLUS HU PLUS=ASH",
   "CUNEIFORM SIGN GA2 TIMES KUSHU2 PLUS,CUNEIFORM SIGN UZ3 TIMES=KASKAL",
   "CUNEIFORM SIGN GA2 TIMES NE PLUS=E2 GI",
   "CUNEIFORM SIGN GA2 TIMES SHE PLUS=TUR",
   "CUNEIFORM SIGN GA2 TIMES=AN ASH ASH2 BAD BAHAR2 BUR DA DI DUB EL EN EREN GA GAR GI GI4 HAL",
   "CUNEIFORM SIGN GA2 TIMES=HUB2 KAK KASKAL KID LA LAM LUH MI MUSH NE NUN PA SAL SAR SHE SHID",
   "CUNEIFORM SIGN GA2 TIMES=SHIM SUM TAK4 U UD ZIZ2",
   "CUNEIFORM SIGN GABA CROSSING=GABA",
   "CUNEIFORM SIGN GABA ROTATED NINETY,CUNEIFORM SIGN NU11 ROTATED NINETY=DEGREES",
   "CUNEIFORM SIGN GAD OVER GAD GAR OVER,CUNEIFORM SIGN GAL GAD OVER GAD GAR OVER=GAR",
   "CUNEIFORM SIGN GAN2 CROSSING,CUNEIFORM SIGN GAN2 OVER=GAN2",
   "CUNEIFORM SIGN GAN2,CUNEIFORM SIGN GIR3 TIMES GAN2,CUNEIFORM SIGN GISH=TENU",
   "CUNEIFORM SIGN GESHTIN TIMES=KUR U",
   "CUNEIFORM SIGN GI CROSSING,MENDE KIKAKUI SYLLABLE M155=GI",
   "CUNEIFORM SIGN GI TIMES=E U",
   "CUNEIFORM SIGN GI4 CROSSING,CUNEIFORM SIGN GI4 OVER=GI4",
   "CUNEIFORM SIGN GIR2,CUNEIFORM SIGN GU2,CUNEIFORM SIGN GU2 TIMES IGI=GUNU",
   "CUNEIFORM SIGN GIR3 TIMES A PLUS,CUNEIFORM SIGN GIR3 TIMES LU PLUS=IGI",
   "CUNEIFORM SIGN GIR3 TIMES=IGI PA",
   "CUNEIFORM SIGN GISH CROSSING,CUNEIFORM SIGN GISH TIMES GISH CROSSING=GISH",
   "CUNEIFORM SIGN GISH TIMES=BAD TAK4",
   "CUNEIFORM SIGN GU CROSSING,MENDE KIKAKUI SYLLABLE M168=GU",
   "CUNEIFORM SIGN GU2 TIMES KAK TIMES IGI,CUNEIFORM SIGN HA TENU=GUNU",
   "CUNEIFORM SIGN GU2 TIMES SAL PLUS=TUG2",
   "CUNEIFORM SIGN GU2 TIMES=KAK NUN",
   "CUNEIFORM SIGN GUD OVER GUD,CUNEIFORM SIGN LUGAL OPPOSING=LUGAL",
   "CUNEIFORM SIGN GUD TIMES,CUNEIFORM SIGN GUD TIMES A PLUS=KUR",
   "CUNEIFORM SIGN HA=GUNU TENU",
   "CUNEIFORM SIGN HI TIMES ASH OVER HI TIMES,CUNEIFORM SIGN LAGAB TIMES U2 PLUS=ASH",
   "CUNEIFORM SIGN HI TIMES=ASH ASH2 BAD DISH GAD KIN NUN SHE U",
   "CUNEIFORM SIGN HUB2 TIMES=AN HAL KASKAL LISH UD",
   "CUNEIFORM SIGN IDIM OVER IDIM=BUR SQUARED",
   "CUNEIFORM SIGN IGI=DIB GUNU RI",
   "CUNEIFORM SIGN IL TIMES GAN2,CUNEIFORM SIGN KA TIMES GAN2=TENU",
   "CUNEIFORM SIGN IM CROSSING,CUNEIFORM SIGN IM OPPOSING=IM",
   "CUNEIFORM SIGN IM TIMES,CUNEIFORM SIGN MA TIMES,CUNEIFORM SIGN SI TIMES=TAK4",
   "CUNEIFORM SIGN KA TIMES AD PLUS=KU3",
   "CUNEIFORM SIGN KA TIMES GAR PLUS SHA3 PLUS=A",
   "CUNEIFORM SIGN KA TIMES GISH CROSSING=GISH",
   "CUNEIFORM SIGN KA TIMES GISH PLUS,CUNEIFORM SIGN ZU OVER ZU PLUS=SAR",
   "CUNEIFORM SIGN KA TIMES HI TIMES=ASH2",
   "CUNEIFORM SIGN KA TIMES ME PLUS=DU GI TE",
   "CUNEIFORM SIGN KA TIMES MI PLUS=NUNUZ",
   "CUNEIFORM SIGN KA TIMES U U,CUNEIFORM SIGN KASKAL LAGAB TIMES U OVER LAGAB TIMES=U",
   "CUNEIFORM SIGN KA TIMES UMUM TIMES,LINEAR B SYLLABLE B003=PA",
   "CUNEIFORM SIGN KA TIMES=A AD ANSHE ASH2 ASH3 BAD BALAG BAR BI BU ERIN2 ESH2 GA GAL GAR GI",
   "CUNEIFORM SIGN KA TIMES=GIR2 GISH GU GUD GUR7 IGI IM KA KAK KI KID LI LU LUM ME MI NE NUN PA",
   "CUNEIFORM SIGN KA TIMES=PI RU SA SAR SHA SHE SHID SHU SHUL SIG SUHUR TAR TU U U2 UD UR UR2",
   "CUNEIFORM SIGN KA TIMES=USH ZI",
   "CUNEIFORM SIGN KA2 CROSSING=KA2",
   "CUNEIFORM SIGN KAD5 OVER=KAD5",
   "CUNEIFORM SIGN KAK TIMES IGI,CUNEIFORM SIGN KUL,CUNEIFORM SIGN LAGAB TIMES IGI=GUNU",
   "CUNEIFORM SIGN KAL CROSSING=KAL",
   "CUNEIFORM SIGN KAL TIMES,CUNEIFORM SIGN LU TIMES=BAD",
   "CUNEIFORM SIGN KAP=ELAMITE",
   "CUNEIFORM SIGN KASKAL OVER KASKAL LAGAB TIMES U OVER LAGAB TIMES=U",
   "CUNEIFORM SIGN KI TIMES=BAD U UD",
   "CUNEIFORM SIGN KISIM5 OVER=KISIM5",
   "CUNEIFORM SIGN KU OVER HI TIMES ASH2 KU OVER HI TIMES=ASH2",
   "CUNEIFORM SIGN KUR OPPOSING,CUNEIFORM SIGN LAM TIMES=KUR",
   "CUNEIFORM SIGN LAGAB TIMES A PLUS DA PLUS,CUNEIFORM SIGN SAG GUNU TIMES=HA",
   "CUNEIFORM SIGN LAGAB TIMES A PLUS=GAR LAL",
   "CUNEIFORM SIGN LAGAB TIMES ASH ZIDA,CUNEIFORM SIGN LAGAB TIMES SHITA PLUS GISH=TENU",
   "CUNEIFORM SIGN LAGAB TIMES GUD PLUS,CUNEIFORM SIGN URU TIMES U PLUS=GUD",
   "CUNEIFORM SIGN LAGAB TIMES HI TIMES,CUNEIFORM SIGN NUN CROSSING=NUN",
   "CUNEIFORM SIGN LAGAB TIMES IM PLUS=HA LU",
   "CUNEIFORM SIGN LAGAB TIMES KUL PLUS HI PLUS,CUNEIFORM SIGN LAGAB TIMES U PLUS=A",
   "CUNEIFORM SIGN LAGAB TIMES ME PLUS,CUNEIFORM SIGN LU2 TIMES ME PLUS=EN",
   "CUNEIFORM SIGN LAGAB TIMES SHE PLUS,CUNEIFORM SIGN LAGAR TIMES SHE PLUS=SUM",
   "CUNEIFORM SIGN LAGAB TIMES SHU2 PLUS,CUNEIFORM SIGN SIG4 OVER SIG4=SHU2",
   "CUNEIFORM SIGN LAGAB TIMES TE PLUS A PLUS SU PLUS=NA",
   "CUNEIFORM SIGN LAGAB TIMES U PLUS U PLUS,CUNEIFORM SIGN NINDA2 TIMES U PLUS=U",
   "CUNEIFORM SIGN LAGAB TIMES ZU OVER=ZU",
   "CUNEIFORM SIGN LAGAB TIMES=A AL AN BAD BI DAR EN GA GAR GI GUD HA HAL IM KI KIN KU3 KUL",
   "CUNEIFORM SIGN LAGAB TIMES=LAGAB LISH LU LUL ME MUSH NE SHU2 SUM TAG TAK4 U UD USH",
   "CUNEIFORM SIGN LAGAR GUNU OVER LAGAR GUNU,CUNEIFORM SIGN LAGAR TIMES=SHE",
   "CUNEIFORM SIGN LAGAR,CUNEIFORM SIGN LAK-079 OVER LAK-079=GUNU",
   "CUNEIFORM SIGN LAK-081 OVER=LAK-081",
   "CUNEIFORM SIGN LAK-449 TIMES PAP PLUS PAP PLUS=LU3",
   "CUNEIFORM SIGN LAK-449 TIMES PAP PLUS=LU3",
   "CUNEIFORM SIGN LAK-449 TIMES=GU IGI",
   "CUNEIFORM SIGN LAK-617 TIMES DUN3 GUNU,CUNEIFORM SIGN LAK-648 TIMES IGI=GUNU",
   "CUNEIFORM SIGN LAK-617 TIMES=ASH BAD KU3 LA TAR TE U2 UD URUDA",
   "CUNEIFORM SIGN LAK-648 TIMES PAP PLUS PAP PLUS=LU3",
   "CUNEIFORM SIGN LAK-648 TIMES SHESH PLUS,LINEAR B SYLLABLE B067=KI",
   "CUNEIFORM SIGN LAK-648 TIMES=DUB GA IGI NI UD URUDA",
   "CUNEIFORM SIGN LAL TIMES,CUNEIFORM SIGN LU2 TIMES ESH2 PLUS=LAL",
   "CUNEIFORM SIGN LAM TIMES KUR PLUS,LINEAR B SYLLABLE B026=RU",
   "CUNEIFORM SIGN LU2 CROSSING,CUNEIFORM SIGN LU2 OPPOSING=LU2",
   "CUNEIFORM SIGN LU2 GUNU TIMES,CUNEIFORM SIGN LU2 TIMES KAD3 PLUS=ASH",
   "CUNEIFORM SIGN LU2 SHESHIG TIMES,CUNEIFORM SIGN LU2 TIMES HI TIMES=BAD",
   "CUNEIFORM SIGN LU2 TIMES ESH2,CUNEIFORM SIGN LU2 TIMES GAN2=TENU",
   "CUNEIFORM SIGN LU2 TIMES LA PLUS,CUNEIFORM SIGN LU2 TIMES SI PLUS=ASH",
   "CUNEIFORM SIGN LU2 TIMES PAP PLUS PAP PLUS=LU3",
   "CUNEIFORM SIGN LU2 TIMES=AL BAD DISH ESH2 HAL IM KAD2 KAD3 KI LAGAB NE NU PAP SHU TAK4 TUG2",
   "CUNEIFORM SIGN LU2=SHESHIG SQUARED TENU",
   "CUNEIFORM SIGN LUGAL OVER=LUGAL",
   "CUNEIFORM SIGN LUGAL,CUNEIFORM SIGN NE,CUNEIFORM SIGN UR=SHESHIG",
   "CUNEIFORM SIGN LUM OVER LUM GAR OVER=GAR",
   "CUNEIFORM SIGN LUM OVER=LUM",
   "CUNEIFORM SIGN MA,CUNEIFORM SIGN MUG,CUNEIFORM SIGN MUSH3=GUNU",
   "CUNEIFORM SIGN MI PLUS=ZA7",
   "CUNEIFORM SIGN MU OVER,LINEAR B SYLLABLE B023=MU",
   "CUNEIFORM SIGN MUSH CROSSING,CUNEIFORM SIGN MUSH OVER=MUSH",
   "CUNEIFORM SIGN MUSH OVER MUSH TIMES A PLUS,LINEAR B SYLLABLE B006=NA",
   "CUNEIFORM SIGN MUSH OVER MUSH TIMES=GA KAK",
   "CUNEIFORM SIGN MUSH TIMES=A KUR ZA",
   "CUNEIFORM SIGN MUSH3 TIMES A PLUS,LINEAR B SYLLABLE B007=DI",
   "CUNEIFORM SIGN MUSH3 TIMES=A DI ZA",
   "CUNEIFORM SIGN NAGA TIMES SHU,CUNEIFORM SIGN NIM TIMES GAN2=TENU",
   "CUNEIFORM SIGN NAGA,CUNEIFORM SIGN UR2=INVERTED",
   "CUNEIFORM SIGN NAM=NUTILLU",
   "CUNEIFORM SIGN NE TIMES=A UD",
   "CUNEIFORM SIGN NIM TIMES GAR PLUS GAN2=TENU",
   "CUNEIFORM SIGN NINDA2 TIMES ASH PLUS,CUNEIFORM SIGN NINDA2 TIMES SHE PLUS=ASH",
   "CUNEIFORM SIGN NINDA2 TIMES DIM,CUNEIFORM SIGN NUNUZ AB2 TIMES IGI=GUNU",
   "CUNEIFORM SIGN NINDA2 TIMES ME PLUS GAN2,CUNEIFORM SIGN NU11=TENU",
   "CUNEIFORM SIGN NINDA2 TIMES PAP PLUS=PAP",
   "CUNEIFORM SIGN NINDA2 TIMES SHE PLUS A,CUNEIFORM SIGN SHU2 PLUS E2 TIMES=AN",
   "CUNEIFORM SIGN NINDA2 TIMES SHE PLUS ASH PLUS=ASH",
   "CUNEIFORM SIGN NINDA2 TIMES U2 PLUS=ASH",
   "CUNEIFORM SIGN NINDA2 TIMES=AN ASH BAL GI GISH GUD GUL HI KESH2 LAK-050 MASH NE NUN SHE U",
   "CUNEIFORM SIGN NINDA2 TIMES=URUDA USH",
   "CUNEIFORM SIGN NU11 OVER NU11 BUR OVER,CUNEIFORM SIGN SHIR OVER SHIR BUR OVER=BUR",
   "CUNEIFORM SIGN NUN CROSSING NUN LAGAR OVER=LAGAR",
   "CUNEIFORM SIGN NUN LAGAR TIMES SAL OVER NUN LAGAR TIMES=SAL",
   "CUNEIFORM SIGN NUN LAGAR TIMES=GAR MASH SAL USH",
   "CUNEIFORM SIGN NUN OVER,MENDE KIKAKUI SYLLABLE M039,PALMYRENE LETTER FINAL=NUN",
   "CUNEIFORM SIGN NUN,CUNEIFORM SIGN SHA6,CUNEIFORM SIGN SHIR,CUNEIFORM SIGN TI=TENU",
   "CUNEIFORM SIGN NUNUZ AB2 TIMES=ASHGAB BI DUG GUD KAD3 LA NE SILA3 U2",
   "CUNEIFORM SIGN NUNUZ KISIM5 TIMES BI,CUNEIFORM SIGN U U=U",
   "CUNEIFORM SIGN NUNUZ KISIM5 TIMES,MENDE KIKAKUI SYLLABLE M010=BI",
   "CUNEIFORM SIGN PESH2,EIGHT SPOKED,EIGHT TEARDROP-SPOKED PROPELLER=ASTERISK",
   "CUNEIFORM SIGN PI CROSSING,LINEAR B SYLLABLE B039,MENDE KIKAKUI SYLLABLE M068=PI",
   "CUNEIFORM SIGN PI TIMES=A AB BI BU E I IB U U2",
   "CUNEIFORM SIGN PIRIG OPPOSING=PIRIG",
   "CUNEIFORM SIGN PIRIG TIMES=KAL UD ZA",
   "CUNEIFORM SIGN SAG OVER,CUNEIFORM SIGN TAK4 PLUS=SAG",
   "CUNEIFORM SIGN SAG TIMES IGI,CUNEIFORM SIGN SHIM TIMES IGI,CUNEIFORM SIGN SI=GUNU",
   "CUNEIFORM SIGN SAG TIMES=A DU DUB EN HA KAK KUR LUM MI NUN SAL SHID TAB TAK4 U2 UB UM UR USH",
   "CUNEIFORM SIGN SAG=GUNU NUTILLU",
   "CUNEIFORM SIGN SAL LAGAB TIMES=ASH2",
   "CUNEIFORM SIGN SHA3 TIMES U PLUS,CUNEIFORM SIGN ZU5 TIMES=A",
   "CUNEIFORM SIGN SHA3 TIMES=A BAD GISH NE SHU2 TUR U",
   "CUNEIFORM SIGN SHE OVER SHE GAD OVER GAD GAR OVER=GAR",
   "CUNEIFORM SIGN SHE OVER SHE TAB OVER TAB GAR OVER=GAR",
   "CUNEIFORM SIGN SHE OVER=SHE",
   "CUNEIFORM SIGN SHE PLUS=HUB2 NAM2 SAR",
   "CUNEIFORM SIGN SHE,MENDE KIKAKUI SYLLABLE M186,PARENTHESIZED KOREAN CHARACTER O=HU",
   "CUNEIFORM SIGN SHID TIMES=A IM",
   "CUNEIFORM SIGN SHIM TIMES=A BAL BULUG DIN GAR IGI KUSHU2 LUL MUG SAL",
   "CUNEIFORM SIGN SHU2 PLUS DUG TIMES,LINEAR B SYLLABLE B030=NI",
   "CUNEIFORM SIGN TA TIMES=HI MI",
   "CUNEIFORM SIGN TA=ASTERISK GUNU",
   "CUNEIFORM SIGN TAB OVER TAB NI OVER NI DISH OVER=DISH",
   "CUNEIFORM SIGN TAB,SQUARE M OVER S,SQUARE RAD OVER S=SQUARED",
   "CUNEIFORM SIGN TAG TIMES=BI GUD SHE SHU TUG2 UD",
   "CUNEIFORM SIGN TE,CUNEIFORM SIGN UD TIMES U PLUS U PLUS U,CUNEIFORM SIGN UN=GUNU",
   "CUNEIFORM SIGN TIR OVER TIR GAD OVER GAD GAR OVER=GAR",
   "CUNEIFORM SIGN TIR OVER=TIR",
   "CUNEIFORM SIGN TIR TIMES=TAK4",
   "CUNEIFORM SIGN TUM TIMES GAN2,CUNEIFORM SIGN URU TIMES GAN2,CUNEIFORM SIGN ZA=TENU",
   "CUNEIFORM SIGN TUM TIMES THREE,PETRI=DISH",
   "CUNEIFORM SIGN TUR OVER TUR ZA OVER,LINEAR B SYLLABLE B017=ZA",
   "CUNEIFORM SIGN U OVER U PA OVER PA GAR OVER=GAR",
   "CUNEIFORM SIGN U OVER U SUR OVER=SUR",
   "CUNEIFORM SIGN U OVER U U REVERSED OVER U,LATIN CAPITAL LETTER EZH=REVERSED",
   "CUNEIFORM SIGN U=GUD U",
   "CUNEIFORM SIGN UD SHESHIG TIMES=BAD",
   "CUNEIFORM SIGN UD TIMES U PLUS U PLUS,CUNEIFORM SIGN URUDA TIMES=U",
   "CUNEIFORM SIGN UD TIMES=BAD MI",
   "CUNEIFORM SIGN UD=GUNU KUSHU2 SHESHIG",
   "CUNEIFORM SIGN UM TIMES=LAGAB ME SHA3 U",
   "CUNEIFORM SIGN UMUM TIMES=KASKAL PA",
   "CUNEIFORM SIGN UR CROSSING=UR",
   "CUNEIFORM SIGN UR2 TIMES A PLUS=HA NA",
   "CUNEIFORM SIGN UR2 TIMES U2 PLUS=ASH BI",
   "CUNEIFORM SIGN UR2 TIMES=AL HA NUN U2 UD",
   "CUNEIFORM SIGN URU TIMES=A ASHGAB BAR DARA3 DUN GA GAL GAR GU HA IGI IM ISH KI LAK-668 LU3",
   "CUNEIFORM SIGN URU TIMES=LUM MIN PA SHE SIG4 TU UD URUDA",
   "CUNEIFORM SIGN USH TIMES=A KU KUR TAK4",
   "CUNEIFORM SIGN ZA SQUARED TIMES=KUR",
   "CUNEIFORM SIGN ZI OVER=ZI",
   "CUNEIFORM SIGN ZIB KABA,CUNEIFORM SIGN ZU5 TIMES THREE DISH=TENU",
   "CUNEIFORM SIGN=A A2 AB AB2 AD AK AL ALAN ALEPH AMAR AN ANSHE APIN ARAD ARKAB ASAL2 ASH ASH2",
   "CUNEIFORM SIGN=ASHGAB BA BAD BAG3 BAHAR2 BAL BALAG BAR BARA2 BI BU BULUG BUR BUR2 DA DAG",
   "CUNEIFORM SIGN=DAG3 DAM DAR DARA3 DARA4 DI DIB DIM DIM2 DIN DISH DU DUB DUB2 DUG DUGUD DUH",
   "CUNEIFORM SIGN=DUN DUN3 DUN4 DUR2 E E2 EDIN EGIR EL EN EREN ERIN2 ESH2 EZEN GA GA2 GABA GAD",
   "CUNEIFORM SIGN=GAL GALAM GAM GAN GAN2 GAR GAR3 GASHAN GE22 GESHTIN GI GI4 GIDIM GIG GIR2",
   "CUNEIFORM SIGN=GIR3 GISAL GISH GU GU2 GUD GUL GUM GUR GUR7 GURUN GURUSH HA HAL HI HU HUB2",
   "CUNEIFORM SIGN=HUL2 HUSH I IB IDIM IG IGI IL IL2 IM IMIN IN IR ISH KA KA2 KAB KAD2 KAD3 KAD4",
   "CUNEIFORM SIGN=KAD5 KAK KAL KAM2 KAM4 KASKAL KESH2 KI KID KIN KISAL KISH KISIM5 KU KU3 KU4",
   "CUNEIFORM SIGN=KU7 KUL KUN KUR KUSHU2 KWU318 LA LAGAB LAGAR LAHSHU LAK-003 LAK-021 LAK-025",
   "CUNEIFORM SIGN=LAK-030 LAK-050 LAK-051 LAK-062 LAK-080 LAK-092 LAK-130 LAK-142 LAK-210",
   "CUNEIFORM SIGN=LAK-219 LAK-220 LAK-225 LAK-228 LAK-238 LAK-265 LAK-266 LAK-343 LAK-347",
   "CUNEIFORM SIGN=LAK-348 LAK-383 LAK-384 LAK-390 LAK-441 LAK-449 LAK-450 LAK-457 LAK-470",
   "CUNEIFORM SIGN=LAK-483 LAK-490 LAK-492 LAK-493 LAK-495 LAK-550 LAK-608 LAK-617 LAK-636",
   "CUNEIFORM SIGN=LAK-648 LAK-724 LAK-749 LAL LAM LI LIL LIMMU2 LISH LU LU2 LU3 LUGAL LUH LUL",
   "CUNEIFORM SIGN=LUM MA MA2 MAH MAR MASH MASH2 ME MES MESH MI MIN MU MUG MUNSUB MURGU2 MUSH",
   "CUNEIFORM SIGN=MUSH3 NA NA2 NA4 NAGA NAGAR NAM NAM2 NE NI NI2 NIM NIN NIN9 NINDA2 NISAG NU",
   "CUNEIFORM SIGN=NU11 NUN NUNUZ PA PAD PAN PAP PESH2 PI PIR2 PIRIG RA RAB RI RU SA SAG SAL",
   "CUNEIFORM SIGN=SANGA2 SAR SHA SHA3 SHA6 SHAB6 SHAR2 SHE SHEG9 SHEN SHESH SHESH2 SHESHLAM",
   "CUNEIFORM SIGN=SHID SHIM SHINIG SHIR SHITA SHU SHU2 SHUBUR SI SIG SIG4 SIK2 SILA3 SU SUD",
   "CUNEIFORM SIGN=SUD2 SUHUR SUM SUMASH SUR SUR9 TA TAB TAG TAK4 TAR TE TI TI2 TIL TIR TU TUG2",
   "CUNEIFORM SIGN=TUK TUM TUR U U2 UB UD UDUG UM UMBIN UMUM UN UR UR2 UR4 URI URI3 URU URUDA",
   "CUNEIFORM SIGN=USH USH2 USHUMX USHX UTUKI UZ3 UZU ZA ZA7 ZAG ZAMX ZE2 ZI ZI3 ZIB ZIG ZIZ2 ZU",
   "CUNEIFORM SIGN=ZU5 ZUBUR ZUM",
   "CUP WITH=STRAW",
   "CURLING,GEM=STONE",
   "CURLY BRACKET,HORIZONTAL LINE,INTEGRAL,LEFT PARENTHESIS=EXTENSION",
   "CURLY LOGICAL,DOUBLE LOGICAL,LOGICAL,N-ARY LOGICAL,SLOPING LARGE=AND OR",
   "CURLY,DOUBLE CURLY,LATIN LETTER REVERSED ESH=LOOP",
   "CURRENCY=EXCHANGE SIGN",
   "CUT OF=MEAT",
   "CYPRIOT SYLLABLE=A E I JA JO KA KE KI KO KU LA LE LI LO LU MA ME MI MO MU NA NE NI NO NU O",
   "CYPRIOT SYLLABLE=PA PE PI PO PU RA RE RI RO RU SA SE SI SO SU TA TE TI TO TU U WA WE WI WO",
   "CYPRIOT SYLLABLE=XA XE ZA ZO",
   "CYPRO-MINOAN SIGN=CM001 CM002 CM004 CM005 CM006 CM007 CM008 CM009 CM010 CM011 CM012 CM012B",
   "CYPRO-MINOAN SIGN=CM013 CM015 CM017 CM019 CM021 CM023 CM024 CM025 CM026 CM027 CM028 CM029",
   "CYPRO-MINOAN SIGN=CM030 CM033 CM034 CM035 CM036 CM037 CM038 CM039 CM040 CM041 CM044 CM046",
   "CYPRO-MINOAN SIGN=CM047 CM049 CM050 CM051 CM052 CM053 CM054 CM055 CM056 CM058 CM059 CM060",
   "CYPRO-MINOAN SIGN=CM061 CM062 CM063 CM064 CM066 CM067 CM068 CM069 CM070 CM071 CM072 CM073",
   "CYPRO-MINOAN SIGN=CM074 CM075 CM075B CM076 CM078 CM079 CM080 CM081 CM082 CM083 CM084 CM085",
   "CYPRO-MINOAN SIGN=CM086 CM087 CM088 CM089 CM090 CM091 CM092 CM094 CM095 CM096 CM097 CM098",
   "CYPRO-MINOAN SIGN=CM099 CM100 CM101 CM102 CM103 CM104 CM105 CM107 CM108 CM109 CM110 CM112",
   "CYPRO-MINOAN SIGN=CM114 CM301 CM302",
   "CYRILLIC CAPITAL LETTER A WITH,CYRILLIC SMALL LETTER A WITH=BREVE DIAERESIS",
   "CYRILLIC CAPITAL LETTER ABKHASIAN CHE WITH=DESCENDER",
   "CYRILLIC CAPITAL LETTER ABKHASIAN,CYRILLIC SMALL LETTER ABKHASIAN=CHE DZE HA",
   "CYRILLIC CAPITAL LETTER ALEUT,CYRILLIC CAPITAL LETTER BASHKIR=KA",
   "CYRILLIC CAPITAL LETTER BARRED O WITH,CYRILLIC CAPITAL LETTER E WITH=DIAERESIS",
   "CYRILLIC CAPITAL LETTER BARRED,CYRILLIC CAPITAL LETTER BINOCULAR=O",
   "CYRILLIC CAPITAL LETTER BIG,CYRILLIC CAPITAL LETTER BLENDED=YUS",
   "CYRILLIC CAPITAL LETTER BROAD,CYRILLIC CAPITAL LETTER ROUND=OMEGA",
   "CYRILLIC CAPITAL LETTER BYELORUSSIAN-UKRAINIAN=I",
   "CYRILLIC CAPITAL LETTER CHE WITH VERTICAL=STROKE",
   "CYRILLIC CAPITAL LETTER CHE WITH,CYRILLIC CAPITAL LETTER ZE WITH=DESCENDER DIAERESIS",
   "CYRILLIC CAPITAL LETTER CLOSED LITTLE,CYRILLIC CAPITAL LETTER IOTIFIED BIG=YUS",
   "CYRILLIC CAPITAL LETTER CROSSED,CYRILLIC CAPITAL LETTER DOUBLE=O",
   "CYRILLIC CAPITAL LETTER DOUBLE MONOCULAR,CYRILLIC CAPITAL LETTER MONOCULAR=O",
   "CYRILLIC CAPITAL LETTER EL WITH MIDDLE,CYRILLIC CAPITAL LETTER EN WITH LEFT=HOOK",
   "CYRILLIC CAPITAL LETTER EL WITH,CYRILLIC CAPITAL LETTER EN WITH=DESCENDER HOOK TAIL",
   "CYRILLIC CAPITAL LETTER EN WITH MIDDLE,CYRILLIC CAPITAL LETTER GHE WITH MIDDLE=HOOK",
   "CYRILLIC CAPITAL LETTER ER WITH,CYRILLIC SMALL LETTER ER WITH=TICK",
   "CYRILLIC CAPITAL LETTER ES WITH,CYRILLIC CAPITAL LETTER PE WITH=DESCENDER",
   "CYRILLIC CAPITAL LETTER GHE WITH STROKE AND=HOOK",
   "CYRILLIC CAPITAL LETTER GHE WITH,CYRILLIC SMALL LETTER GHE WITH=DESCENDER STROKE UPTURN",
   "CYRILLIC CAPITAL LETTER HA WITH,CYRILLIC CAPITAL LETTER KA WITH=DESCENDER HOOK STROKE",
   "CYRILLIC CAPITAL LETTER I WITH,CYRILLIC SMALL LETTER I WITH=DIAERESIS GRAVE MACRON",
   "CYRILLIC CAPITAL LETTER IE WITH,CYRILLIC SMALL LETTER IE WITH=BREVE GRAVE",
   "CYRILLIC CAPITAL LETTER IOTIFIED CLOSED LITTLE=YUS",
   "CYRILLIC CAPITAL LETTER IOTIFIED LITTLE,CYRILLIC CAPITAL LETTER LITTLE=YUS",
   "CYRILLIC CAPITAL LETTER IOTIFIED,CYRILLIC SMALL LETTER IOTIFIED=A E YAT",
   "CYRILLIC CAPITAL LETTER IZHITSA WITH DOUBLE GRAVE=ACCENT",
   "CYRILLIC CAPITAL LETTER KA WITH VERTICAL=STROKE",
   "CYRILLIC CAPITAL LETTER KHAKASSIAN,CYRILLIC SMALL LETTER KHAKASSIAN=CHE",
   "CYRILLIC CAPITAL LETTER KOMI,CYRILLIC SMALL LETTER KOMI=DE DJE DZJE LJE NJE SJE TJE ZJE",
   "CYRILLIC CAPITAL LETTER NEUTRAL,CYRILLIC CAPITAL LETTER YERU WITH BACK=YER",
   "CYRILLIC CAPITAL LETTER O WITH,CYRILLIC CAPITAL LETTER SCHWA WITH=DIAERESIS",
   "CYRILLIC CAPITAL LETTER OMEGA WITH,CYRILLIC SMALL LETTER OMEGA WITH=TITLO",
   "CYRILLIC CAPITAL LETTER PE WITH MIDDLE,CYRILLIC CAPITAL LETTER TE WITH MIDDLE=HOOK",
   "CYRILLIC CAPITAL LETTER REVERSED,CYRILLIC SMALL LETTER REVERSED=DZE TSE YU ZE",
   "CYRILLIC CAPITAL LETTER SEMISOFT,CYRILLIC SMALL LETTER HARD=SIGN",
   "CYRILLIC CAPITAL LETTER SHHA WITH,CYRILLIC CAPITAL LETTER TE WITH=DESCENDER",
   "CYRILLIC CAPITAL LETTER SHORT I WITH,CYRILLIC SMALL LETTER EM WITH=TAIL",
   "CYRILLIC CAPITAL LETTER SOFT,CYRILLIC SMALL LETTER SOFT=DE EL EM SIGN",
   "CYRILLIC CAPITAL LETTER STRAIGHT U WITH=STROKE",
   "CYRILLIC CAPITAL LETTER STRAIGHT,CYRILLIC SMALL LETTER STRAIGHT=U",
   "CYRILLIC CAPITAL LETTER U WITH,CYRILLIC SMALL LETTER U WITH=DIAERESIS MACRON",
   "CYRILLIC CAPITAL LETTER YERU WITH,CYRILLIC SMALL LETTER BARRED O WITH=DIAERESIS",
   "CYRILLIC CAPITAL LETTER ZHE WITH,CYRILLIC SMALL LETTER ZHE WITH=BREVE DESCENDER DIAERESIS",
   "CYRILLIC CAPITAL LETTER=A BE CCHE CHE DCHE DE DJE DJERV DWE DZE DZELO DZHE DZWE DZZE DZZHE E",
   "CYRILLIC CAPITAL LETTER=EF EL EM EN ER ES FITA GHE GJE HA HWE I IE IO IOTA IZHITSA JE KA KJE",
   "CYRILLIC CAPITAL LETTER=KOPPA KSI LHA LJE NJE O OMEGA OT PE PSI QA RHA SCHWA SHA SHCHA SHHA",
   "CYRILLIC CAPITAL LETTER=SHWE TCHE TE TSE TSHE TSSE TSWE TWE U UK VE WE YA YAE YAT YERU YI YN",
   "CYRILLIC CAPITAL LETTER=YU ZE ZEMLYA ZHE ZHWE",
   "CYRILLIC CAPITAL LIGATURE A,CYRILLIC SMALL LETTER UKRAINIAN=IE",
   "CYRILLIC CAPITAL LIGATURE EN,CYRILLIC SMALL LIGATURE EN=GHE",
   "CYRILLIC CAPITAL LIGATURE TE,CYRILLIC SMALL LIGATURE TE=TSE",
   "CYRILLIC LETTER MULTIOCULAR,CYRILLIC SMALL LETTER BARRED=O",
   "CYRILLIC LETTER SMALL CAPITAL=EL",
   "CYRILLIC LETTER=PALOCHKA",
   "CYRILLIC SMALL LETTER ABKHASIAN CHE WITH,CYRILLIC SMALL LETTER ES WITH=DESCENDER",
   "CYRILLIC SMALL LETTER ALEUT,CYRILLIC SMALL LETTER BASHKIR,LINEAR B SYLLABLE B077=KA",
   "CYRILLIC SMALL LETTER BIG,CYRILLIC SMALL LETTER BLENDED=YUS",
   "CYRILLIC SMALL LETTER BINOCULAR,CYRILLIC SMALL LETTER CROSSED=O",
   "CYRILLIC SMALL LETTER BROAD,CYRILLIC SMALL LETTER ROUND=OMEGA",
   "CYRILLIC SMALL LETTER BYELORUSSIAN-UKRAINIAN,DUPLOYAN LETTER SHORT=I",
   "CYRILLIC SMALL LETTER CHE WITH VERTICAL=STROKE",
   "CYRILLIC SMALL LETTER CHE WITH,CYRILLIC SMALL LETTER ZE WITH=DESCENDER DIAERESIS",
   "CYRILLIC SMALL LETTER CLOSED LITTLE,CYRILLIC SMALL LETTER IOTIFIED BIG=YUS",
   "CYRILLIC SMALL LETTER DOUBLE,CYRILLIC SMALL LETTER DOUBLE MONOCULAR=O",
   "CYRILLIC SMALL LETTER E WITH,CYRILLIC SMALL LETTER O WITH=DIAERESIS",
   "CYRILLIC SMALL LETTER EL WITH MIDDLE,CYRILLIC SMALL LETTER EN WITH LEFT=HOOK",
   "CYRILLIC SMALL LETTER EL WITH,CYRILLIC SMALL LETTER EN WITH=DESCENDER HOOK TAIL",
   "CYRILLIC SMALL LETTER EN WITH MIDDLE,CYRILLIC SMALL LETTER GHE WITH MIDDLE=HOOK",
   "CYRILLIC SMALL LETTER GHE WITH STROKE AND,CYRILLIC SMALL LETTER PE WITH MIDDLE=HOOK",
   "CYRILLIC SMALL LETTER HA WITH,CYRILLIC SMALL LETTER KA WITH=DESCENDER HOOK STROKE",
   "CYRILLIC SMALL LETTER IOTIFIED CLOSED LITTLE=YUS",
   "CYRILLIC SMALL LETTER IOTIFIED LITTLE,CYRILLIC SMALL LETTER LITTLE=YUS",
   "CYRILLIC SMALL LETTER IZHITSA WITH DOUBLE GRAVE,DEVANAGARI ACUTE=ACCENT",
   "CYRILLIC SMALL LETTER KA WITH VERTICAL,CYRILLIC SMALL LETTER STRAIGHT U WITH=STROKE",
   "CYRILLIC SMALL LETTER LONG-LEGGED,LINEAR B SYLLABLE B045=DE",
   "CYRILLIC SMALL LETTER MONOCULAR,CYRILLIC SMALL LETTER NARROW=O",
   "CYRILLIC SMALL LETTER MONOGRAPH,CYRILLIC SMALL LETTER UNBLENDED=UK",
   "CYRILLIC SMALL LETTER NEUTRAL,CYRILLIC SMALL LETTER YERU WITH BACK=YER",
   "CYRILLIC SMALL LETTER PE WITH,CYRILLIC SMALL LETTER SHHA WITH=DESCENDER",
   "CYRILLIC SMALL LETTER ROUNDED,MENDE KIKAKUI SYLLABLE M085=VE",
   "CYRILLIC SMALL LETTER SCHWA WITH,CYRILLIC SMALL LETTER YERU WITH=DIAERESIS",
   "CYRILLIC SMALL LETTER SEMISOFT,CYRILLIC SMALL LETTER TALL HARD=SIGN",
   "CYRILLIC SMALL LETTER SHORT I WITH,DOWN FISH,DOWNWARDS ARROW WITH NOTCHED=TAIL",
   "CYRILLIC SMALL LETTER TALL=TE YAT",
   "CYRILLIC SMALL LETTER TE WITH MIDDLE,DOWNWARD FACING,DOWNWARD FACING NOTCHED=HOOK",
   "CYRILLIC SMALL LETTER TE WITH,LATIN CAPITAL LETTER P WITH STROKE THROUGH=DESCENDER",
   "CYRILLIC SMALL LETTER THREE-LEGGED,LINEAR B SYLLABLE B004=TE",
   "CYRILLIC SMALL LETTER U WITH DOUBLE,DUPLOYAN AFFIX HIGH TIGHT=ACUTE",
   "CYRILLIC SMALL LETTER WIDE=ES",
   "CYRILLIC SMALL LETTER=A BE CCHE CHE DCHE DE DJE DJERV DWE DZE DZELO DZHE DZWE DZZE DZZHE E",
   "CYRILLIC SMALL LETTER=EF EL EM EN ER ES FITA GHE GJE HA HWE I IE IO IOTA IZHITSA JE KA KJE",
   "CYRILLIC SMALL LETTER=KOPPA KSI LHA LJE NJE O OMEGA OT PALOCHKA PE PSI QA RHA SCHWA SHA",
   "CYRILLIC SMALL LETTER=SHCHA SHHA SHWE TCHE TE TSE TSHE TSSE TSWE TWE U UK VE WE YA YAE YAT",
   "CYRILLIC SMALL LETTER=YERU YI YN YU ZE ZEMLYA ZHE ZHWE",
   "CYRILLIC SMALL LIGATURE A=IE",
   "CYRILLIC THOUSANDS,DEVANAGARI ABBREVIATION,DIAMETER,DIVES AKURU PREFIXED NASAL=SIGN",
   "CYRILLIC=KAVYKA PAYEROK",
   "DAGGER WITH LEFT,DAGGER WITH RIGHT=GUARD",
   "DAGGER,FORK AND=KNIFE",
   "DARK=SHADE SUNGLASSES",
   "DASH WITH LEFT=UPTURN",
   "DASHED TRIANGLE-HEADED RIGHTWARDS,DOWNWARDS ARROW LEFTWARDS OF UPWARDS=ARROW",
   "DATA LINK,SYMBOL FOR DATA LINK=ESCAPE",
   "DECIMAL SEPARATOR KEY,DECREASE FONT SIZE,DISCONTINUOUS UNDERLINE,DIVORCE=SYMBOL",
   "DEGREE=CELSIUS FAHRENHEIT SIGN",
   "DELIVERY,PICKUP=TRUCK",
   "DELTA EQUAL,DOUBLE-LINE SLANTED GREATER-THAN OR EQUAL=TO",
   "DENTISTRY SYMBOL LIGHT DOWN AND HORIZONTAL WITH=CIRCLE TRIANGLE WAVE",
   "DENTISTRY SYMBOL LIGHT DOWN AND,DENTISTRY SYMBOL LIGHT UP AND=HORIZONTAL",
   "DENTISTRY SYMBOL LIGHT UP AND HORIZONTAL WITH=CIRCLE TRIANGLE WAVE",
   "DENTISTRY SYMBOL LIGHT VERTICAL AND TOP,ERASE TO THE=LEFT RIGHT",
   "DENTISTRY SYMBOL LIGHT VERTICAL AND,RIGHT SPEAKER WITH ONE SOUND,SINE=WAVE",
   "DENTISTRY SYMBOL LIGHT VERTICAL WITH=CIRCLE TRIANGLE",
   "DESERET CAPITAL LETTER LONG,DESERET CAPITAL LETTER SHORT=A AH E I O OO",
   "DESERET CAPITAL LETTER,DESERET SMALL LETTER=AY BEE CHEE DEE EF EL EM EN ENG ER ES ESH ETH EW",
   "DESERET CAPITAL LETTER,DESERET SMALL LETTER=GAY H JEE KAY OI OW PEE TEE THEE VEE WU YEE ZEE",
   "DESERET CAPITAL LETTER,DESERET SMALL LETTER=ZHEE",
   "DESERET SMALL LETTER LONG,DESERET SMALL LETTER SHORT=A AH E I O OO",
   "DESERT=ISLAND",
   "DESKTOP=COMPUTER WINDOW",
   "DEVANAGARI GAP,DIVES AKURU GAP,HALFWIDTH HANGUL,HANGUL,KHITAN SMALL SCRIPT=FILLER",
   "DEVANAGARI GRAVE,DOUBLE ACUTE,FULLWIDTH CIRCUMFLEX,FULLWIDTH GRAVE,GRAVE=ACCENT",
   "DEVANAGARI JAIN,GRANTHA,GUJARATI,TAMIL,TIBETAN SYLLABLE,WARANG CITI=OM",
   "DEVANAGARI LETTER CANDRA,DEVANAGARI LETTER SHORT=A E O",
   "DEVANAGARI LETTER GLOTTAL,DIGIT EIGHT FULL,DIGIT FIVE FULL,DIGIT FOUR FULL=STOP",
   "DEVANAGARI LETTER HEAVY,MENDE KIKAKUI SYLLABLE M032,PHAGS-PA LETTER ALTERNATE=YA",
   "DEVANAGARI LETTER MARWARI=DDA",
   "DEVANAGARI LETTER=A AA AI AU AW AY BA BBA BHA CA CHA DA DDA DDDA DDDHA DDHA DHA E FA GA GGA",
   "DEVANAGARI LETTER=GHA GHHA HA I II JA JHA JJA KA KHA KHHA LA LLA LLLA MA NA NGA NNA NNNA NYA",
   "DEVANAGARI LETTER=O OE OOE PA PHA QA RA RHA RRA SA SHA SSA TA THA TTA TTHA U UE UU UUE VA YA",
   "DEVANAGARI LETTER=YYA ZA ZHA",
   "DEVANAGARI SIGN CANDRABINDU=AVAGRAHA THREE TWO VIRAMA",
   "DEVANAGARI SIGN HIGH SPACING,DOWNWARD FACING HOOK WITH=DOT",
   "DEVANAGARI SIGN INVERTED,DEVANAGARI SIGN SPACING,KANNADA SIGN SPACING=CANDRABINDU",
   "DEVANAGARI SIGN=ANUSVARA AVAGRAHA CANDRABINDU NUKTA PUSHPIKA SIDDHAM VIRAMA VISARGA",
   "DEVANAGARI STRESS SIGN,VEDIC SIGN REVERSED VISARGA=ANUDATTA UDATTA",
   "DEVANAGARI VOWEL SIGN CANDRA,DEVANAGARI VOWEL SIGN SHORT,GUJARATI VOWEL CANDRA=E O",
   "DEVANAGARI VOWEL SIGN PRISHTHAMATRA,LATIN CAPITAL LETTER REVERSED=E",
   "DEVANAGARI VOWEL SIGN=AA AI AU AW AY E I II O OE OOE U UE UU UUE",
   "DEVANAGARI=CARET DANDA HEADSTROKE OM",
   "DEVICE CONTROL=FOUR ONE STRING THREE TWO",
   "DIAMOND WITH LEFT HALF,DIAMOND WITH RIGHT HALF,DIAMOND WITH TOP HALF=BLACK",
   "DIAMOND=OPERATOR TARGET",
   "DIE=FACE-1 FACE-2 FACE-3 FACE-4 FACE-5 FACE-6",
   "DIESEL,STEAM=LOCOMOTIVE",
   "DIFFERENCE=BETWEEN",
   "DIGIT EIGHT,DIGIT FIVE,DIGIT FOUR,DIGIT NINE,DIGIT ONE,DIGIT SEVEN,DIGIT SIX=COMMA",
   "DIGIT NINE FULL,DIGIT ONE FULL,DIGIT SEVEN FULL,DIGIT SIX FULL=STOP",
   "DIGIT THREE FULL,DIGIT TWO FULL,DIGIT ZERO FULL=STOP",
   "DIGIT THREE,DIGIT TWO,DIGIT ZERO,DOUBLE STACKED,HALFWIDTH IDEOGRAPHIC=COMMA",
   "DIGRAM FOR EARTHLY=HEAVEN HUMAN",
   "DIGRAM FOR GREATER,DIGRAM FOR LESSER=YANG YIN",
   "DIGRAM FOR,DIGRAM FOR HEAVENLY,DIGRAM FOR HUMAN,HEXAGRAM FOR THE RECEPTIVE=EARTH",
   "DIMENSION=ORIGIN",
   "DINGBAT CIRCLED SANS-SERIF DIGIT,DINGBAT NEGATIVE CIRCLED SANS-SERIF DIGIT=EIGHT FIVE FOUR",
   "DINGBAT CIRCLED SANS-SERIF DIGIT,DINGBAT NEGATIVE CIRCLED SANS-SERIF DIGIT=NINE ONE SEVEN",
   "DINGBAT CIRCLED SANS-SERIF DIGIT,DINGBAT NEGATIVE CIRCLED SANS-SERIF DIGIT=SIX THREE TWO",
   "DINGBAT CIRCLED SANS-SERIF DIGIT,DINGBAT NEGATIVE CIRCLED SANS-SERIF DIGIT=ZERO",
   "DINGBAT CIRCLED SANS-SERIF NUMBER,DINGBAT NEGATIVE CIRCLED NUMBER=TEN",
   "DINGBAT NEGATIVE CIRCLED DIGIT,DOUBLE CIRCLED DIGIT,ETHIOPIC DIGIT=EIGHT FIVE FOUR NINE ONE",
   "DINGBAT NEGATIVE CIRCLED DIGIT,DOUBLE CIRCLED DIGIT,ETHIOPIC DIGIT=SEVEN SIX THREE TWO",
   "DINGBAT NEGATIVE CIRCLED SANS-SERIF NUMBER,DOUBLE CIRCLED NUMBER=TEN",
   "DIRECT CURRENT SYMBOL FORM,GREEK ACROPHONIC EPIDAUREAN,LINEAR B SYLLABLE B091=TWO",
   "DIRECT=HIT",
   "DISABLED,ONCOMING POLICE,TRAM=CAR",
   "DIVES AKURU DIGIT,EXTENDED ARABIC-INDIC DIGIT,FULLWIDTH DIGIT,GUJARATI DIGIT=EIGHT FIVE FOUR",
   "DIVES AKURU DIGIT,EXTENDED ARABIC-INDIC DIGIT,FULLWIDTH DIGIT,GUJARATI DIGIT=NINE ONE SEVEN",
   "DIVES AKURU DIGIT,EXTENDED ARABIC-INDIC DIGIT,FULLWIDTH DIGIT,GUJARATI DIGIT=SIX THREE TWO",
   "DIVES AKURU DIGIT,EXTENDED ARABIC-INDIC DIGIT,FULLWIDTH DIGIT,GUJARATI DIGIT=ZERO",
   "DIVES AKURU DOUBLE,KAITHI,KAITHI DOUBLE,KHAROSHTHI PUNCTUATION DOUBLE,KHOJKI=DANDA",
   "DIVES AKURU LETTER=A AA BA BHA CA CHA DA DDA DDHA DHA E GA GHA HA I II JA KA KHA LA LLA MA",
   "DIVES AKURU LETTER=NA NGA NNA NYA O PA PHA RA SA SHA SSA TA THA TTA U UU VA YA YYA ZA",
   "DIVES AKURU MEDIAL,LEPCHA SUBJOINED LETTER=RA YA",
   "DIVES AKURU SIGN=ANUSVARA CANDRABINDU HALANTA NUKTA",
   "DIVES AKURU VOWEL SIGN=AA AI E I II O U UU",
   "DIVING,FACE WITH MEDICAL=MASK",
   "DIVISION=SIGN SLASH TIMES",
   "DIZZY=FACE SYMBOL",
   "DNA DOUBLE=HELIX",
   "DO NOT LITTER,DOUBLED,E-MAIL,EJECT,EMPHASIS,ENTER,ESTIMATED,FARSI=SYMBOL",
   "DOCUMENT WITH TEXT AND=PICTURE",
   "DOCUMENT WITH=PICTURE TEXT",
   "DOES NOT PRECEDE OR,DOES NOT SUCCEED OR,DOUBLE COLON=EQUAL",
   "DOES NOT=DIVIDE FORCE PRECEDE PROVE SUCCEED",
   "DOGRA ABBREVIATION,DOLLAR,DONG,DOUBLE STROKE NOT,DOUBLED FEMALE,DOUBLED MALE=SIGN",
   "DOGRA LETTER=A AA AI AU BA BHA CA CHA DA DDA DDHA DHA E GA GHA HA I II JA JHA KA KHA LA MA",
   "DOGRA LETTER=NA NGA NNA NYA O PA PHA RA RRA SA SHA SSA TA THA TTA TTHA U UU VA YA",
   "DOGRA SIGN,TAKRI SIGN=ANUSVARA NUKTA VIRAMA VISARGA",
   "DOGRA VOWEL SIGN VOCALIC,NANDINAGARI LETTER VOCALIC=R RR",
   "DOMINO TILE HORIZONTAL,DOMINO TILE VERTICAL,PHAISTOS DISC SIGN OX=BACK",
   "DOMINO TILE=HORIZONTAL-00-00 HORIZONTAL-00-01 HORIZONTAL-00-02 HORIZONTAL-00-03",
   "DOMINO TILE=HORIZONTAL-00-04 HORIZONTAL-00-05 HORIZONTAL-00-06 HORIZONTAL-01-00",
   "DOMINO TILE=HORIZONTAL-01-01 HORIZONTAL-01-02 HORIZONTAL-01-03 HORIZONTAL-01-04",
   "DOMINO TILE=HORIZONTAL-01-05 HORIZONTAL-01-06 HORIZONTAL-02-00 HORIZONTAL-02-01",
   "DOMINO TILE=HORIZONTAL-02-02 HORIZONTAL-02-03 HORIZONTAL-02-04 HORIZONTAL-02-05",
   "DOMINO TILE=HORIZONTAL-02-06 HORIZONTAL-03-00 HORIZONTAL-03-01 HORIZONTAL-03-02",
   "DOMINO TILE=HORIZONTAL-03-03 HORIZONTAL-03-04 HORIZONTAL-03-05 HORIZONTAL-03-06",
   "DOMINO TILE=HORIZONTAL-04-00 HORIZONTAL-04-01 HORIZONTAL-04-02 HORIZONTAL-04-03",
   "DOMINO TILE=HORIZONTAL-04-04 HORIZONTAL-04-05 HORIZONTAL-04-06 HORIZONTAL-05-00",
   "DOMINO TILE=HORIZONTAL-05-01 HORIZONTAL-05-02 HORIZONTAL-05-03 HORIZONTAL-05-04",
   "DOMINO TILE=HORIZONTAL-05-05 HORIZONTAL-05-06 HORIZONTAL-06-00 HORIZONTAL-06-01",
   "DOMINO TILE=HORIZONTAL-06-02 HORIZONTAL-06-03 HORIZONTAL-06-04 HORIZONTAL-06-05",
   "DOMINO TILE=HORIZONTAL-06-06 VERTICAL-00-00 VERTICAL-00-01 VERTICAL-00-02 VERTICAL-00-03",
   "DOMINO TILE=VERTICAL-00-04 VERTICAL-00-05 VERTICAL-00-06 VERTICAL-01-00 VERTICAL-01-01",
   "DOMINO TILE=VERTICAL-01-02 VERTICAL-01-03 VERTICAL-01-04 VERTICAL-01-05 VERTICAL-01-06",
   "DOMINO TILE=VERTICAL-02-00 VERTICAL-02-01 VERTICAL-02-02 VERTICAL-02-03 VERTICAL-02-04",
   "DOMINO TILE=VERTICAL-02-05 VERTICAL-02-06 VERTICAL-03-00 VERTICAL-03-01 VERTICAL-03-02",
   "DOMINO TILE=VERTICAL-03-03 VERTICAL-03-04 VERTICAL-03-05 VERTICAL-03-06 VERTICAL-04-00",
   "DOMINO TILE=VERTICAL-04-01 VERTICAL-04-02 VERTICAL-04-03 VERTICAL-04-04 VERTICAL-04-05",
   "DOMINO TILE=VERTICAL-04-06 VERTICAL-05-00 VERTICAL-05-01 VERTICAL-05-02 VERTICAL-05-03",
   "DOMINO TILE=VERTICAL-05-04 VERTICAL-05-05 VERTICAL-05-06 VERTICAL-06-00 VERTICAL-06-01",
   "DOMINO TILE=VERTICAL-06-02 VERTICAL-06-03 VERTICAL-06-04 VERTICAL-06-05 VERTICAL-06-06",
   "DOT=ABOVE MINUS OPERATOR PLUS",
   "DOTTED LINE,DRAGON,DROOLING,EXPRESSIONLESS,FEARFUL,FIRST QUARTER MOON WITH=FACE",
   "DOTTED RIGHT-POINTING,MODIFIER LETTER LOWER RIGHT CORNER,REVERSED RIGHT=ANGLE",
   "DOTTED=CIRCLE CROSS FENCE OBELOS SOLIDUS SQUARE",
   "DOUBLE EXCLAMATION,DOUBLE HIGH-REVERSED-9 QUOTATION,DOUBLE LOW-9 QUOTATION=MARK",
   "DOUBLE LEFT ARC GREATER-THAN,DOUBLE RIGHT ARC LESS-THAN=BRACKET",
   "DOUBLE LOW-REVERSED-9 QUOTATION,DOUBLE PRIME QUOTATION,DOUBLE QUESTION=MARK",
   "DOUBLE NESTED LESS-THAN WITH,LOGICAL AND WITH,MULTIPLICATION SIGN WITH=UNDERBAR",
   "DOUBLE NESTED,DOUBLE-LINE EQUAL TO OR,DOUBLE-LINE SLANTED EQUAL TO OR=GREATER-THAN LESS-THAN",
   "DOUBLE OBLIQUE,KATAKANA-HIRAGANA DOUBLE,MONGOLIAN TODO SOFT,NON-BREAKING=HYPHEN",
   "DOUBLE SQUARE=INTERSECTION UNION",
   "DOUBLE SUSPENSION,DUPLOYAN DOUBLE,ETHIOPIC COMBINING GEMINATION=MARK",
   "DOUBLE VERTICAL BAR DOUBLE LEFT,DOUBLE VERTICAL BAR DOUBLE RIGHT=TURNSTILE",
   "DOUBLE VERTICAL BAR LEFT,LEFT AND RIGHT DOUBLE=TURNSTILE",
   "DOUBLE VERTICAL=BAR LINE",
   "DOUBLE-ENDED=MULTIMAP",
   "DOUBLE-LINE SLANTED LESS-THAN OR EQUAL,EQUAL AND PARALLEL,EQUIANGULAR,EQUIVALENT=TO",
   "DOUBLE-STRUCK CAPITAL=C GAMMA H N P PI Q R Z",
   "DOUBLE-STRUCK ITALIC CAPITAL,LATIN CAPITAL LETTER AFRICAN,LINEAR A SIGN A703=D",
   "DOUBLE-STRUCK ITALIC SMALL=D E I J",
   "DOUBLE-STRUCK N-ARY=SUMMATION",
   "DOUBLE-STRUCK SMALL=GAMMA PI",
   "DOUBLE=DAGGER HYPHEN INTEGRAL INTERSECTION PLUS PRECEDES PRIME SUBSET SUCCEEDS SUPERSET",
   "DOUBLE=UNION",
   "DOVE OF=PEACE",
   "DOWN RIGHT DIAGONAL,MIDLINE HORIZONTAL=ELLIPSIS",
   "DOWN,MODIFIER LETTER DOWN,MODIFIER LETTER LEFT,MODIFIER LETTER RIGHT=ARROWHEAD TACK",
   "DOWN-POINTING SMALL RED,HEAVY WHITE DOWN-POINTING,HEBREW YOD,MINUS SIGN IN=TRIANGLE",
   "DOWN-POINTING TRIANGLE WITH LEFT HALF,DOWN-POINTING TRIANGLE WITH RIGHT HALF=BLACK",
   "DOWNWARD FACING NOTCHED HOOK WITH,DUPLOYAN LETTER J S WITH=DOT",
   "DOWNWARDS ARROW AND RIGHT ONE EIGHTH,END OF TRANSMISSION=BLOCK",
   "DOWNWARDS ARROW WITH CORNER,INVERSE DOWNWARDS ARROW WITH TIP=LEFTWARDS",
   "DOWNWARDS ARROW WITH DOUBLE,DOWNWARDS ARROW WITH HORIZONTAL=STROKE",
   "DOWNWARDS ARROW WITH EQUILATERAL,DOWNWARDS ARROW WITH LARGE TRIANGLE=ARROWHEAD",
   "DOWNWARDS ARROW WITH MEDIUM TRIANGLE=ARROWHEAD",
   "DOWNWARDS ARROW WITH SMALL EQUILATERAL=ARROWHEAD",
   "DOWNWARDS ARROW WITH SMALL TRIANGLE,DOWNWARDS TRIANGLE=ARROWHEAD",
   "DOWNWARDS BLACK,DOWNWARDS BLACK CIRCLED WHITE,DOWNWARDS COMPRESSED=ARROW",
   "DOWNWARDS DASHED,DOWNWARDS DOUBLE,DOWNWARDS FINGER-POST,DOWNWARDS HEAVY=ARROW",
   "DOWNWARDS HARPOON WITH BARB LEFT BESIDE DOWNWARDS HARPOON WITH BARB=RIGHT",
   "DOWNWARDS HARPOON WITH BARB LEFT BESIDE UPWARDS HARPOON WITH BARB=RIGHT",
   "DOWNWARDS HARPOON WITH BARB LEFT FROM,DOWNWARDS HARPOON WITH BARB LEFT TO=BAR",
   "DOWNWARDS HARPOON WITH BARB RIGHT FROM,DOWNWARDS HARPOON WITH BARB RIGHT TO=BAR",
   "DOWNWARDS HARPOON WITH BARB,DOWNWARDS TRIANGLE-HEADED ARROW WITH LONG TIP=LEFTWARDS",
   "DOWNWARDS HARPOON WITH BARB,DOWNWARDS TRIANGLE-HEADED ARROW WITH LONG TIP=RIGHTWARDS",
   "DOWNWARDS HEAVY COMPRESSED,DOWNWARDS QUADRUPLE,DOWNWARDS SANS-SERIF=ARROW",
   "DOWNWARDS SQUARED,DOWNWARDS TRIANGLE-HEADED=ARROW",
   "DOWNWARDS TRIANGLE-HEADED ARROW LEFTWARDS OF UPWARDS TRIANGLE-HEADED=ARROW",
   "DOWNWARDS TRIANGLE-HEADED ARROW TO,FULLWIDTH BROKEN,HEAVY VERTICAL=BAR",
   "DOWNWARDS TRIANGLE-HEADED ARROW WITH BOLD=SHAFT",
   "DOWNWARDS TRIANGLE-HEADED ARROW WITH DOUBLE HORIZONTAL=STROKE",
   "DOWNWARDS TRIANGLE-HEADED ARROW WITH HEAVY=SHAFT",
   "DOWNWARDS TRIANGLE-HEADED ARROW WITH MEDIUM=SHAFT",
   "DOWNWARDS TRIANGLE-HEADED ARROW WITH NARROW=SHAFT",
   "DOWNWARDS TRIANGLE-HEADED ARROW WITH VERY HEAVY=SHAFT",
   "DOWNWARDS TRIANGLE-HEADED DASHED,DOWNWARDS TRIANGLE-HEADED ZIGZAG=ARROW",
   "DOWNWARDS TRIANGLE-HEADED PAIRED,LEFTWARDS PAIRED=ARROWS",
   "DOWNWARDS TRIPLE,DOWNWARDS TWO HEADED,DOWNWARDS WHITE,DOWNWARDS ZIGZAG=ARROW",
   "DOWNWARDS TWO-HEADED ARROW WITH TRIANGLE=ARROWHEADS",
   "DOWNWARDS WHITE ARROW WITHIN TRIANGLE=ARROWHEAD",
   "DOWNWARDS,UPWARDS=ANCORA ARROW ROCKET",
   "DRACHMA,DRIVE SLOW,EQUALS SIGN ABOVE PLUS,EURO,EURO-CURRENCY,FACSIMILE,FEMALE=SIGN",
   "DRAFTING POINT RIGHTWARDS,EQUALS SIGN ABOVE LEFTWARDS=ARROW",
   "DROP OF=BLOOD",
   "DRUM WITH=DRUMSTICKS",
   "DUPLOYAN AFFIX ATTACHED E,DUPLOYAN AFFIX ATTACHED I=HOOK",
   "DUPLOYAN AFFIX ATTACHED LEFT-TO-RIGHT,DUPLOYAN AFFIX HIGH VERTICAL=SECANT",
   "DUPLOYAN AFFIX ATTACHED TANGENT,INTEGRAL WITH LEFTWARDS ARROW WITH=HOOK",
   "DUPLOYAN AFFIX ATTACHED=SECANT TAIL TANGENT",
   "DUPLOYAN AFFIX HIGH LONG,DUPLOYAN AFFIX LOW LONG=GRAVE",
   "DUPLOYAN AFFIX HIGH=ACUTE CIRCLE DOT GRAVE LINE VERTICAL WAVE",
   "DUPLOYAN AFFIX LEFT HORIZONTAL,DUPLOYAN AFFIX LOW VERTICAL=SECANT",
   "DUPLOYAN AFFIX LOW TIGHT,LATIN CAPITAL LETTER A WITH RING ABOVE AND=ACUTE",
   "DUPLOYAN AFFIX LOW=ACUTE ARROW CIRCLE DOT GRAVE LINE VERTICAL WAVE",
   "DUPLOYAN AFFIX MID HORIZONTAL,DUPLOYAN AFFIX MID VERTICAL=SECANT",
   "DUPLOYAN AFFIX RIGHT HORIZONTAL=SECANT",
   "DUPLOYAN LETTER D,DUPLOYAN LETTER G R,DUPLOYAN LETTER J M,DUPLOYAN LETTER J N=S",
   "DUPLOYAN LETTER F,DUPLOYAN LETTER P,DUPLOYAN LETTER U=N",
   "DUPLOYAN LETTER J WITH,DUPLOYAN LETTER M WITH,DUPLOYAN LETTER N WITH=DOT",
   "DUPLOYAN LETTER J=M N S",
   "DUPLOYAN LETTER K R,DUPLOYAN LETTER M N,DUPLOYAN LETTER N M,DUPLOYAN LETTER R=S",
   "DUPLOYAN LETTER K,DUPLOYAN LETTER VOCALIC,LATIN EPIGRAPHIC LETTER ARCHAIC=M",
   "DUPLOYAN LETTER LONG,DUPLOYAN LETTER ROMANIAN,HANUNOO VOWEL SIGN=I U",
   "DUPLOYAN LETTER M=N S",
   "DUPLOYAN LETTER NASAL=A I O U",
   "DUPLOYAN LETTER PERNIN=AM AN",
   "DUPLOYAN LETTER S J,DUPLOYAN LETTER T,DUPLOYAN LETTER T R,INVERTED LAZY=S",
   "DUPLOYAN LETTER S K,DUPLOYAN LETTER S P,DUPLOYAN LETTER S T,DUPLOYAN LETTER W=R",
   "DUPLOYAN LETTER S WITH DOT,EQUALS SIGN WITH DOT,EQUALS SIGN WITH INFINITY=BELOW",
   "DUPLOYAN LETTER S WITH,GREATER-THAN WITH,HALFWIDTH KATAKANA MIDDLE=DOT",
   "DUPLOYAN LETTER S=J K M N P S T",
   "DUPLOYAN LETTER SLOAN=AN DH EE EH EN J ON OW U",
   "DUPLOYAN LETTER=A AOU B D DH E EE EU F G H HL I IE J K KK L LH M N O OA OOH OU OW P R RH S T",
   "DUPLOYAN LETTER=TH U UH UI V W WA WEI WH WI WO WOW X XW YE",
   "DUPLOYAN PUNCTUATION CHINOOK FULL,ETHIOPIC FULL,FULLWIDTH FULL=STOP",
   "DUPLOYAN THICK LETTER=SELECTOR"]

def rowsFromE : List String :=
  ["EAR OF=MAIZE RICE",
   "EAR WITH HEARING=AID",
   "EARTH GLOBE=AMERICAS ASIA-AUSTRALIA EUROPE-AFRICA",
   "EARTH,UMBRELLA ON=GROUND",
   "EDITORIAL=CORONIS",
   "EGYPTIAN HIEROGLYPH BEGIN,EGYPTIAN HIEROGLYPH END=SEGMENT",
   "EGYPTIAN HIEROGLYPH INSERT AT BOTTOM,EGYPTIAN HIEROGLYPH INSERT AT TOP=END START",
   "EGYPTIAN HIEROGLYPH OVERLAY,SIGNWRITING HAND-FIST INDEX BENT OVER=MIDDLE",
   "EGYPTIAN HIEROGLYPH VERTICAL,TIFINAGH CONSONANT,WORD=JOINER",
   "EGYPTIAN HIEROGLYPH=A001 A002 A003 A004 A005 A005A A006 A006A A006B A007 A008 A009 A010 A011",
   "EGYPTIAN HIEROGLYPH=A012 A013 A014 A014A A015 A016 A017 A017A A018 A019 A020 A021 A022 A023",
   "EGYPTIAN HIEROGLYPH=A024 A025 A026 A027 A028 A029 A030 A031 A032 A032A A033 A034 A035 A036",
   "EGYPTIAN HIEROGLYPH=A037 A038 A039 A040 A040A A041 A042 A042A A043 A043A A044 A045 A045A",
   "EGYPTIAN HIEROGLYPH=A046 A047 A048 A049 A050 A051 A052 A053 A054 A055 A056 A057 A058 A059",
   "EGYPTIAN HIEROGLYPH=A060 A061 A062 A063 A064 A065 A066 A067 A068 A069 A070 AA001 AA002 AA003",
   "EGYPTIAN HIEROGLYPH=AA004 AA005 AA006 AA007 AA007A AA007B AA008 AA009 AA010 AA011 AA012",
   "EGYPTIAN HIEROGLYPH=AA013 AA014 AA015 AA016 AA017 AA018 AA019 AA020 AA021 AA022 AA023 AA024",
   "EGYPTIAN HIEROGLYPH=AA025 AA026 AA027 AA028 AA029 AA030 AA031 AA032 B001 B002 B003 B004 B005",
   "EGYPTIAN HIEROGLYPH=B005A B006 B007 B008 B009 C001 C002 C002A C002B C002C C003 C004 C005",
   "EGYPTIAN HIEROGLYPH=C006 C007 C008 C009 C010 C010A C011 C012 C013 C014 C015 C016 C017 C018",
   "EGYPTIAN HIEROGLYPH=C019 C020 C021 C022 C023 C024 D001 D002 D003 D004 D005 D006 D007 D008",
   "EGYPTIAN HIEROGLYPH=D008A D009 D010 D011 D012 D013 D014 D015 D016 D017 D018 D019 D020 D021",
   "EGYPTIAN HIEROGLYPH=D022 D023 D024 D025 D026 D027 D027A D028 D029 D030 D031 D031A D032 D033",
   "EGYPTIAN HIEROGLYPH=D034 D034A D035 D036 D037 D038 D039 D040 D041 D042 D043 D044 D045 D046",
   "EGYPTIAN HIEROGLYPH=D046A D047 D048 D048A D049 D050 D050A D050B D050C D050D D050E D050F",
   "EGYPTIAN HIEROGLYPH=D050G D050H D050I D051 D052 D052A D053 D054 D054A D055 D056 D057 D058",
   "EGYPTIAN HIEROGLYPH=D059 D060 D061 D062 D063 D064 D065 D066 D067 D067A D067B D067C D067D",
   "EGYPTIAN HIEROGLYPH=D067E D067F D067G D067H E001 E002 E003 E004 E005 E006 E007 E008 E008A",
   "EGYPTIAN HIEROGLYPH=E009 E009A E010 E011 E012 E013 E014 E015 E016 E016A E017 E017A E018 E019",
   "EGYPTIAN HIEROGLYPH=E020 E020A E021 E022 E023 E024 E025 E026 E027 E028 E028A E029 E030 E031",
   "EGYPTIAN HIEROGLYPH=E032 E033 E034 E034A E036 E037 E038 F001 F001A F002 F003 F004 F005 F006",
   "EGYPTIAN HIEROGLYPH=F007 F008 F009 F010 F011 F012 F013 F013A F014 F015 F016 F017 F018 F019",
   "EGYPTIAN HIEROGLYPH=F020 F021 F021A F022 F023 F024 F025 F026 F027 F028 F029 F030 F031 F031A",
   "EGYPTIAN HIEROGLYPH=F032 F033 F034 F035 F036 F037 F037A F038 F038A F039 F040 F041 F042 F043",
   "EGYPTIAN HIEROGLYPH=F044 F045 F045A F046 F046A F047 F047A F048 F049 F050 F051 F051A F051B",
   "EGYPTIAN HIEROGLYPH=F051C F052 F053 G001 G002 G003 G004 G005 G006 G006A G007 G007A G007B",
   "EGYPTIAN HIEROGLYPH=G008 G009 G010 G011 G011A G012 G013 G014 G015 G016 G017 G018 G019 G020",
   "EGYPTIAN HIEROGLYPH=G020A G021 G022 G023 G024 G025 G026 G026A G027 G028 G029 G030 G031 G032",
   "EGYPTIAN HIEROGLYPH=G033 G034 G035 G036 G036A G037 G037A G038 G039 G040 G041 G042 G043 G043A",
   "EGYPTIAN HIEROGLYPH=G044 G045 G045A G046 G047 G048 G049 G050 G051 G052 G053 G054 H001 H002",
   "EGYPTIAN HIEROGLYPH=H003 H004 H005 H006 H006A H007 H008 I001 I002 I003 I004 I005 I005A I006",
   "EGYPTIAN HIEROGLYPH=I007 I008 I009 I009A I010 I010A I011 I011A I012 I013 I014 I015 K001 K002",
   "EGYPTIAN HIEROGLYPH=K003 K004 K005 K006 K007 K008 L001 L002 L002A L003 L004 L005 L006 L006A",
   "EGYPTIAN HIEROGLYPH=L007 L008 M001 M001A M001B M002 M003 M003A M004 M005 M006 M007 M008 M009",
   "EGYPTIAN HIEROGLYPH=M010 M010A M011 M012 M012A M012B M012C M012D M012E M012F M012G M012H",
   "EGYPTIAN HIEROGLYPH=M013 M014 M015 M015A M016 M016A M017 M017A M018 M019 M020 M021 M022",
   "EGYPTIAN HIEROGLYPH=M022A M023 M024 M024A M025 M026 M027 M028 M028A M029 M030 M031 M031A",
   "EGYPTIAN HIEROGLYPH=M032 M033 M033A M033B M034 M035 M036 M037 M038 M039 M040 M040A M041 M042",
   "EGYPTIAN HIEROGLYPH=M043 M044 N001 N002 N003 N004 N005 N006 N007 N008 N009 N010 N011 N012",
   "EGYPTIAN HIEROGLYPH=N013 N014 N015 N016 N017 N018 N018A N018B N019 N020 N021 N022 N023 N024",
   "EGYPTIAN HIEROGLYPH=N025 N025A N026 N027 N028 N029 N030 N031 N032 N033 N033A N034 N034A N035",
   "EGYPTIAN HIEROGLYPH=N035A N036 N037 N037A N038 N039 N040 N041 N042 NL001 NL002 NL003 NL004",
   "EGYPTIAN HIEROGLYPH=NL005 NL005A NL006 NL007 NL008 NL009 NL010 NL011 NL012 NL013 NL014 NL015",
   "EGYPTIAN HIEROGLYPH=NL016 NL017 NL017A NL018 NL019 NL020 NU001 NU002 NU003 NU004 NU005 NU006",
   "EGYPTIAN HIEROGLYPH=NU007 NU008 NU009 NU010 NU010A NU011 NU011A NU012 NU013 NU014 NU015",
   "EGYPTIAN HIEROGLYPH=NU016 NU017 NU018 NU018A NU019 NU020 NU021 NU022 NU022A O001 O001A O002",
   "EGYPTIAN HIEROGLYPH=O003 O004 O005 O005A O006 O006A O006B O006C O006D O006E O006F O007 O008",
   "EGYPTIAN HIEROGLYPH=O009 O010 O010A O010B O010C O011 O012 O013 O014 O015 O016 O017 O018 O019",
   "EGYPTIAN HIEROGLYPH=O019A O020 O020A O021 O022 O023 O024 O024A O025 O025A O026 O027 O028",
   "EGYPTIAN HIEROGLYPH=O029 O029A O030 O030A O031 O032 O033 O033A O034 O035 O036 O036A O036B",
   "EGYPTIAN HIEROGLYPH=O036C O036D O037 O038 O039 O040 O041 O042 O043 O044 O045 O046 O047 O048",
   "EGYPTIAN HIEROGLYPH=O049 O050 O050A O050B O051 P001 P001A P002 P003 P003A P004 P005 P006",
   "EGYPTIAN HIEROGLYPH=P007 P008 P009 P010 P011 Q001 Q002 Q003 Q004 Q005 Q006 Q007 R001 R002",
   "EGYPTIAN HIEROGLYPH=R002A R003 R003A R003B R004 R005 R006 R007 R008 R009 R010 R010A R011",
   "EGYPTIAN HIEROGLYPH=R012 R013 R014 R015 R016 R016A R017 R018 R019 R020 R021 R022 R023 R024",
   "EGYPTIAN HIEROGLYPH=R025 R026 R027 R028 R029 S001 S002 S002A S003 S004 S005 S006 S006A S007",
   "EGYPTIAN HIEROGLYPH=S008 S009 S010 S011 S012 S013 S014 S014A S014B S015 S016 S017 S017A S018",
   "EGYPTIAN HIEROGLYPH=S019 S020 S021 S022 S023 S024 S025 S026 S026A S026B S027 S028 S029 S030",
   "EGYPTIAN HIEROGLYPH=S031 S032 S033 S034 S035 S035A S036 S037 S038 S039 S040 S041 S042 S043",
   "EGYPTIAN HIEROGLYPH=S044 S045 S046 T001 T002 T003 T003A T004 T005 T006 T007 T007A T008 T008A",
   "EGYPTIAN HIEROGLYPH=T009 T009A T010 T011 T011A T012 T013 T014 T015 T016 T016A T017 T018 T019",
   "EGYPTIAN HIEROGLYPH=T020 T021 T022 T023 T024 T025 T026 T027 T028 T029 T030 T031 T032 T032A",
   "EGYPTIAN HIEROGLYPH=T033 T033A T034 T035 T036 U001 U002 U003 U004 U005 U006 U006A U006B U007",
   "EGYPTIAN HIEROGLYPH=U008 U009 U010 U011 U012 U013 U014 U015 U016 U017 U018 U019 U020 U021",
   "EGYPTIAN HIEROGLYPH=U022 U023 U023A U024 U025 U026 U027 U028 U029 U029A U030 U031 U032 U032A",
   "EGYPTIAN HIEROGLYPH=U033 U034 U035 U036 U037 U038 U039 U040 U041 U042 V001 V001A V001B V001C",
   "EGYPTIAN HIEROGLYPH=V001D V001E V001F V001G V001H V001I V002 V002A V003 V004 V005 V006 V007",
   "EGYPTIAN HIEROGLYPH=V007A V007B V008 V009 V010 V011 V011A V011B V011C V012 V012A V012B V013",
   "EGYPTIAN HIEROGLYPH=V014 V015 V016 V017 V018 V019 V020 V020A V020B V020C V020D V020E V020F",
   "EGYPTIAN HIEROGLYPH=V020G V020H V020I V020J V020K V020L V021 V022 V023 V023A V024 V025 V026",
   "EGYPTIAN HIEROGLYPH=V027 V028 V028A V029 V029A V030 V030A V031 V031A V032 V033 V033A V034",
   "EGYPTIAN HIEROGLYPH=V035 V036 V037 V037A V038 V039 V040 V040A W001 W002 W003 W003A W004 W005",
   "EGYPTIAN HIEROGLYPH=W006 W007 W008 W009 W009A W010 W010A W011 W012 W013 W014 W014A W015 W016",
   "EGYPTIAN HIEROGLYPH=W017 W017A W018 W018A W019 W020 W021 W022 W023 W024 W024A W025 X001 X002",
   "EGYPTIAN HIEROGLYPH=X003 X004 X004A X004B X005 X006 X006A X007 X008 X008A Y001 Y001A Y002",
   "EGYPTIAN HIEROGLYPH=Y003 Y004 Y005 Y006 Y007 Y008 Z001 Z002 Z002A Z002B Z002C Z002D Z003",
   "EGYPTIAN HIEROGLYPH=Z003A Z003B Z004 Z004A Z005 Z005A Z006 Z007 Z008 Z009 Z010 Z011 Z012",
   "EGYPTIAN HIEROGLYPH=Z013 Z014 Z015 Z015A Z015B Z015C Z015D Z015E Z015F Z015G Z015H Z015I",
   "EGYPTIAN HIEROGLYPH=Z016 Z016A Z016B Z016C Z016D Z016E Z016F Z016G Z016H",
   "EIGHT PETALLED OUTLINED BLACK,SIX PETALLED BLACK AND WHITE=FLORETTE",
   "EIGHT POINTED RECTILINEAR BLACK,FOUR POINTED BLACK,GLOWING=STAR",
   "EIGHTH,MUSICAL SYMBOL KIEVAN FINAL,MUSICAL SYMBOL KIEVAN HALF=NOTE",
   "ELBASAN LETTER=A BE CE CHE DE DHE E EI FE GE GHAMMA GHE GJE HE I JE KE KHE LE LLE ME NA NDE",
   "ELBASAN LETTER=NE NJE O PE QE RE RRE SE SHE TE THE U VE XE Y ZE ZHE",
   "ELECTRIC LIGHT=BULB",
   "ELECTRIC=ARROW PLUG TORCH",
   "ELECTRICAL,INTERSECTION BESIDE AND JOINED WITH,TRANSVERSAL,UNION ABOVE=INTERSECTION",
   "ELEMENT OF WITH DOT,EMPTY SET WITH LEFT ARROW,EMPTY SET WITH RIGHT ARROW=ABOVE",
   "ELEMENT OF WITH LONG HORIZONTAL=STROKE",
   "ELEMENT OF WITH TWO HORIZONTAL=STROKES",
   "ELEMENT OF WITH VERTICAL BAR AT END OF HORIZONTAL,INTEGRAL WITH DOUBLE=STROKE",
   "ELEMENT OF WITH,LOGICAL AND WITH DOUBLE,LOGICAL OR WITH DOUBLE=OVERBAR UNDERBAR",
   "ELYMAIC LETTER,IMPERIAL ARAMAIC LETTER,INSCRIPTIONAL PARTHIAN LETTER=ALEPH AYIN BETH DALETH",
   "ELYMAIC LETTER,IMPERIAL ARAMAIC LETTER,INSCRIPTIONAL PARTHIAN LETTER=GIMEL HE HETH KAPH",
   "ELYMAIC LETTER,IMPERIAL ARAMAIC LETTER,INSCRIPTIONAL PARTHIAN LETTER=LAMEDH MEM NUN PE QOPH",
   "ELYMAIC LETTER,IMPERIAL ARAMAIC LETTER,INSCRIPTIONAL PARTHIAN LETTER=RESH SADHE SAMEKH SHIN",
   "ELYMAIC LETTER,IMPERIAL ARAMAIC LETTER,INSCRIPTIONAL PARTHIAN LETTER=TAW TETH WAW YODH ZAYIN",
   "ELYMAIC LIGATURE=ZAYIN-YODH",
   "EM,EN=DASH QUAD SPACE",
   "EMOJI COMPONENT CURLY,EMOJI COMPONENT RED,EMOJI COMPONENT WHITE=HAIR",
   "EMOJI COMPONENT=BALD",
   "EMOJI MODIFIER FITZPATRICK=TYPE-1-2 TYPE-3 TYPE-4 TYPE-5 TYPE-6",
   "EMPTY NOTE,NOTE=PAD PAGE",
   "EMPTY SET WITH SMALL CIRCLE,END WITH LEFTWARDS ARROW=ABOVE",
   "EMPTY=DOCUMENT NEST NOTE PAGE PAGES SET",
   "END OF GUARDED,END OF PROTECTED,END OF SELECTED,START OF GUARDED=AREA",
   "END OF=LINE MEDIUM PROOF TEXT TRANSMISSION",
   "ENVELOPE WITH DOWNWARDS ARROW,EQUALS SIGN AND SLANTED PARALLEL WITH TILDE=ABOVE",
   "ENVELOPE WITH=LIGHTNING",
   "EQUAL TO BY=DEFINITION",
   "EQUAL TO OR=GREATER-THAN LESS-THAN PRECEDES SUCCEEDS",
   "EQUALS SIGN ABOVE RIGHTWARDS,FALLING DIAGONAL CROSSING NORTH EAST=ARROW",
   "EQUALS SIGN ABOVE TILDE,INTEGRAL AROUND A POINT,LARGE LEFT TRIANGLE=OPERATOR",
   "EQUALS SIGN AND SLANTED,IDENTICAL TO AND SLANTED=PARALLEL",
   "EQUALS SIGN WITH BUMPY,EQUIVALENT WITH FOUR DOTS=ABOVE",
   "EQUALS SIGN WITH TWO DOTS ABOVE AND TWO DOTS=BELOW",
   "EQUALS WITH,EXTREMELY HEAVY FIVE SPOKED,EXTREMELY HEAVY SIX SPOKED=ASTERISK",
   "EQUALS=COLON SIGN",
   "ERIS FORM,INDIC SIYAQ NUMBER ALTERNATE,KHMER INDEPENDENT VOWEL QOO TYPE=ONE TWO",
   "ERROR-BARRED BLACK,ERROR-BARRED WHITE,LARGE BLUE,LARGE ORANGE=CIRCLE DIAMOND SQUARE",
   "ETHIOPIC COMBINING GEMINATION AND VOWEL LENGTH,ETHIOPIC COMBINING VOWEL LENGTH=MARK",
   "ETHIOPIC NUMBER TEN,IMPERIAL ARAMAIC NUMBER TEN=THOUSAND",
   "ETHIOPIC NUMBER=EIGHTY FIFTY FORTY HUNDRED NINETY SEVENTY SIXTY TEN THIRTY TWENTY",
   "ETHIOPIC PARAGRAPH,GEORGIAN PARAGRAPH,KHOJKI WORD,MONGOLIAN VOWEL=SEPARATOR",
   "ETHIOPIC QUESTION,ETHIOPIC SECTION,EXCLAMATION,EXCLAMATION QUESTION=MARK",
   "ETHIOPIC SYLLABLE GLOTTAL=A AA E EE I O OA U WA",
   "ETHIOPIC SYLLABLE GURAGE=BWEE BWI FWEE FWI GWE GWEE GWI HHWA KWE KWEE KWI MWEE MWI PWEE PWI",
   "ETHIOPIC SYLLABLE GURAGE=QWE QWEE QWI",
   "ETHIOPIC SYLLABLE PHARYNGEAL=A AA E EE I O U",
   "ETHIOPIC SYLLABLE SEBATBEIT=BWA FWA MWA PWA",
   "ETHIOPIC SYLLABLE=BA BAA BBA BBAA BBE BBEE BBI BBO BBU BE BEE BI BO BOA BU BWA BWE BWEE BWI",
   "ETHIOPIC SYLLABLE=CA CAA CCA CCAA CCE CCEE CCHA CCHAA CCHE CCHEE CCHHA CCHHAA CCHHE CCHHEE",
   "ETHIOPIC SYLLABLE=CCHHI CCHHO CCHHU CCHI CCHO CCHU CCI CCO CCU CE CEE CHA CHAA CHE CHEE CHI",
   "ETHIOPIC SYLLABLE=CHO CHOA CHU CHWA CI CO COA CU CWA DA DAA DDA DDAA DDE DDEE DDHAA DDHE",
   "ETHIOPIC SYLLABLE=DDHEE DDHI DDHO DDHU DDI DDO DDOA DDU DDWA DE DEE DI DO DOA DU DWA DZAA",
   "ETHIOPIC SYLLABLE=DZE DZEE DZI DZO DZU FA FAA FE FEE FI FO FU FWA FWE FWEE FWI FYA GA GAA GE",
   "ETHIOPIC SYLLABLE=GEE GGA GGAA GGE GGEE GGI GGO GGU GGWA GGWAA GGWE GGWEE GGWI GI GO GOA GU",
   "ETHIOPIC SYLLABLE=GWA GWAA GWE GWEE GWI GYA GYAA GYE GYEE GYI GYO GYU HA HAA HE HEE HHA HHAA",
   "ETHIOPIC SYLLABLE=HHE HHEE HHI HHO HHU HHWA HHWE HHWEE HHWI HHYA HHYAA HHYE HHYEE HHYI HHYO",
   "ETHIOPIC SYLLABLE=HHYU HI HO HOA HU JA JAA JE JEE JI JO JOA JU JWA KA KAA KE KEE KI KO KOA",
   "ETHIOPIC SYLLABLE=KU KWA KWAA KWE KWEE KWI KXA KXAA KXE KXEE KXI KXO KXU KXWA KXWAA KXWE",
   "ETHIOPIC SYLLABLE=KXWEE KXWI KYA KYAA KYE KYEE KYI KYO KYU LA LAA LE LEE LI LO LOA LU LWA MA",
   "ETHIOPIC SYLLABLE=MAA ME MEE MI MO MOA MU MWA MWE MWEE MWI MYA NA NAA NE NEE NI NO NOA NU",
   "ETHIOPIC SYLLABLE=NWA NYA NYAA NYE NYEE NYI NYO NYOA NYU NYWA PA PAA PE PEE PHA PHAA PHE",
   "ETHIOPIC SYLLABLE=PHEE PHI PHO PHOA PHU PHWA PI PO POA PU PWA PWE PWEE PWI QA QAA QE QEE QHA",
   "ETHIOPIC SYLLABLE=QHAA QHE QHEE QHI QHO QHU QHWA QHWAA QHWE QHWEE QHWI QI QO QOA QU QWA QWAA",
   "ETHIOPIC SYLLABLE=QWE QWEE QWI QYA QYAA QYE QYEE QYI QYO QYU RA RAA RE REE RI RO ROA RU RWA",
   "ETHIOPIC SYLLABLE=RYA SA SAA SE SEE SHA SHAA SHE SHEE SHI SHO SHOA SHU SHWA SI SO SOA SSA",
   "ETHIOPIC SYLLABLE=SSAA SSE SSEE SSI SSO SSU SU SWA SZA SZAA SZE SZEE SZI SZO SZU SZWA TA TAA",
   "ETHIOPIC SYLLABLE=TE TEE THA THAA THE THEE THI THO THOA THU THWA TI TO TOA TSA TSAA TSE TSEE",
   "ETHIOPIC SYLLABLE=TSI TSO TSU TSWA TTHAA TTHE TTHEE TTHI TTHO TTHU TU TWA TZA TZAA TZE TZEE",
   "ETHIOPIC SYLLABLE=TZI TZO TZOA TZU VA VAA VE VEE VI VO VU VWA WA WAA WE WEE WI WO WOA WU XA",
   "ETHIOPIC SYLLABLE=XAA XE XEE XI XO XOA XU XWA XWAA XWE XWEE XWI XYA XYAA XYE XYEE XYI XYO",
   "ETHIOPIC SYLLABLE=XYU YA YAA YE YEE YI YO YOA YU ZA ZAA ZE ZEE ZHA ZHAA ZHE ZHEE ZHI ZHO ZHU",
   "ETHIOPIC SYLLABLE=ZHWA ZI ZO ZOA ZU ZWA ZZA ZZAA ZZE ZZEE ZZI ZZO ZZU",
   "ETHIOPIC TONAL MARK SHORT=RIKRIK",
   "ETHIOPIC TONAL MARK=CHIRET DERET DERET-HIDET DIFAT HIDET KENAT KURT RIKRIK YIZET",
   "ETHIOPIC=COLON COMMA SEMICOLON WORDSPACE",
   "EULER,PLANCK=CONSTANT",
   "EUROPEAN POST,JAPANESE POST=OFFICE",
   "EUROPEAN=CASTLE",
   "EXTRATERRESTRIAL=ALIEN",
   "EXTREMELY HEAVY GREEK,HEAVY GREEK,HEAVY LATIN,HEAVY OPEN CENTRE=CROSS",
   "FACE HOLDING BACK=TEARS",
   "FACE SCREAMING IN=FEAR",
   "FACE THROWING A=KISS",
   "FACE WITH COLD,FACE WITH OPEN MOUTH AND COLD=SWEAT",
   "FACE WITH COWBOY,FACE WITH PARTY HORN AND PARTY=HAT",
   "FACE WITH DIAGONAL,FACE WITH OPEN,FACE WITH OPEN EYES AND HAND OVER=MOUTH",
   "FACE WITH FINGER COVERING CLOSED,SIGNWRITING TEETH BITE=LIPS",
   "FACE WITH LOOK OF=TRIUMPH",
   "FACE WITH NO GOOD,FACE WITH OK=GESTURE",
   "FACE WITH ONE EYEBROW,STICK FIGURE WITH ARMS=RAISED",
   "FACE WITH OPEN MOUTH=VOMITING",
   "FACE WITH PEEKING,FACE WITH STUCK-OUT TONGUE AND WINKING=EYE",
   "FACE WITH PLEADING,FACE WITH ROLLING=EYES",
   "FACE WITH STUCK-OUT TONGUE AND TIGHTLY-CLOSED,GRINNING CAT FACE WITH SMILING=EYES",
   "FACE WITH STUCK-OUT,MUSICAL SYMBOL COMBINING DOUBLE=TONGUE",
   "FACE WITH UNEVEN EYES AND WAVY,FACE WITHOUT,FROWNING FACE WITH OPEN=MOUTH",
   "FACE WITH=HEAD-BANDAGE MONOCLE THERMOMETER",
   "FACE=MASSAGE PALM",
   "FALLEN,HEAVY NORTH EAST POINTING VINE,HEAVY NORTH WEST POINTING VINE=LEAF",
   "FALLING DIAGONAL CROSSING RISING,MATHEMATICAL FALLING,MATHEMATICAL RISING=DIAGONAL",
   "FALLING DIAGONAL IN WHITE CIRCLE IN BLACK,HALFWIDTH BLACK=SQUARE",
   "FATHER,MOTHER=CHRISTMAS",
   "FAX=ICON MACHINE",
   "FEMININE ORDINAL,IDEOGRAPHIC VARIATION,MASCULINE ORDINAL=INDICATOR",
   "FERRIS,LINEAR B IDEOGRAM B243=WHEEL",
   "FIGURE=DASH SPACE",
   "FILE=CABINET FOLDER SEPARATOR",
   "FILM=FRAMES PROJECTOR",
   "FINITE PART,SUMMATION WITH,SURFACE,TOP HALF,VOLUME=INTEGRAL",
   "FIRE=ENGINE EXTINGUISHER",
   "FIREWORK=SPARKLER",
   "FIRST PLACE,SECOND PLACE,SPORTS,THIRD PLACE=MEDAL",
   "FIRST QUARTER MOON,FULL MOON,GIMEL,GIRLS,GREEK BETA=SYMBOL",
   "FIRST STRONG=ISOLATE",
   "FISH CAKE WITH SWIRL=DESIGN",
   "FISHING POLE AND=FISH",
   "FISTED HAND,FRENCH FRANC,FULLWIDTH CENT,FULLWIDTH DOLLAR,FULLWIDTH EQUALS=SIGN",
   "FIVE DOT,FOUR DOT=MARK PUNCTUATION",
   "FLAG IN=HOLE",
   "FLEXED=BICEPS",
   "FLOWER PLAYING=CARDS",
   "FLOWER PUNCTUATION,FULLWIDTH EXCLAMATION,FULLWIDTH QUESTION=MARK",
   "FLUSHED,FOX,FREEZING,FROG,FULL MOON WITH,GIRAFFE,GRIMACING,GRINNING,HAMSTER=FACE",
   "FLYING=DISC ENVELOPE SAUCER",
   "FOR,MUSICAL SYMBOL DAMP=ALL",
   "FORK AND KNIFE WITH=PLATE",
   "FORKED,REVERSED FORKED=PARAGRAPHOS",
   "FORM,REVERSE LINE,SYMBOL FOR FORM,SYMBOL FOR LINE=FEED",
   "FORTUNE=COOKIE",
   "FOUR BALLOON-SPOKED,FOUR CLUB-SPOKED,FOUR TEARDROP-SPOKED=ASTERISK",
   "FOUR CORNER ARROWS CIRCLING=ANTICLOCKWISE",
   "FOUR LEAF=CLOVER",
   "FOUR-PER-EM,HAIR,IDEOGRAPHIC HALF FILL,MEDIUM MATHEMATICAL,NARROW NO-BREAK=SPACE",
   "FRACTION NUMERATOR,HEAVY ARROW SHAFT WIDTH,MONGOLIAN LETTER ALI GALI ANUSVARA=ONE",
   "FRAME WITH=PICTURE TILES",
   "FRENCH=FRIES",
   "FRIED=SHRIMP",
   "FRONT-FACING BABY,HATCHING=CHICK",
   "FRONT-TILTED SHADOWED WHITE RIGHTWARDS,GREATER-THAN ABOVE RIGHTWARDS=ARROW",
   "FUEL=PUMP",
   "FULL OUTER,LEFT OUTER,RIGHT OUTER=JOIN",
   "FULL=BLOCK STOP",
   "FULLWIDTH GREATER-THAN,FULLWIDTH LESS-THAN,FULLWIDTH NOT,FULLWIDTH NUMBER=SIGN",
   "FULLWIDTH LATIN CAPITAL LETTER,FULLWIDTH LATIN SMALL LETTER=A B C D E F G H I J K L M N O P",
   "FULLWIDTH LATIN CAPITAL LETTER,FULLWIDTH LATIN SMALL LETTER=Q R S T U V W X Y Z",
   "FULLWIDTH LEFT CURLY,FULLWIDTH LEFT SQUARE,FULLWIDTH RIGHT CURLY=BRACKET",
   "FULLWIDTH LEFT WHITE,FULLWIDTH RIGHT,FULLWIDTH RIGHT WHITE,LEFT DOUBLE=PARENTHESIS",
   "FULLWIDTH LOW,FULLWIDTH VERTICAL,LEFT VERTICAL BOX=LINE",
   "FULLWIDTH PERCENT,FULLWIDTH PLUS,FULLWIDTH POUND,FULLWIDTH WON,FULLWIDTH YEN=SIGN",
   "FULLWIDTH QUOTATION,GETA,GRANTHA AU LENGTH,GREEK QUESTION=MARK",
   "FULLWIDTH RIGHT SQUARE,HALFWIDTH LEFT CORNER,HALFWIDTH RIGHT CORNER=BRACKET",
   "FULLWIDTH=AMPERSAND APOSTROPHE ASTERISK COLON COMMA HYPHEN-MINUS MACRON SEMICOLON SOLIDUS",
   "FULLWIDTH=TILDE",
   "FUNCTION=APPLICATION",
   "FUNERAL=URN",
   "GAME=DIE",
   "GEAR WITH=HANDLES",
   "GEAR WITHOUT=HUB",
   "GEOMETRIC=PROPORTION",
   "GEOMETRICALLY EQUAL,GEOMETRICALLY EQUIVALENT=TO",
   "GEORGIAN CAPITAL LETTER,GEORGIAN SMALL LETTER=AEN AN BAN CAN CHAR CHIN CIL DON EN GAN GHAN",
   "GEORGIAN CAPITAL LETTER,GEORGIAN SMALL LETTER=HAE HAR HE HIE HOE IN JHAN JIL KAN KHAR LAS",
   "GEORGIAN CAPITAL LETTER,GEORGIAN SMALL LETTER=MAN NAR ON PAR PHAR QAR RAE SAN SHIN TAN TAR",
   "GEORGIAN CAPITAL LETTER,GEORGIAN SMALL LETTER=UN VIN WE XAN YN ZEN ZHAR",
   "GEORGIAN LETTER HARD,GEORGIAN LETTER LABIAL=SIGN",
   "GEORGIAN LETTER TURNED,GEORGIAN MTAVRULI CAPITAL LETTER TURNED=GAN",
   "GEORGIAN LETTER,GEORGIAN MTAVRULI CAPITAL LETTER=AEN AIN AN BAN CAN CHAR CHIN CIL DON ELIFI",
   "GEORGIAN LETTER,GEORGIAN MTAVRULI CAPITAL LETTER=EN FI GAN GHAN HAE HAR HE HIE HOE IN JHAN",
   "GEORGIAN LETTER,GEORGIAN MTAVRULI CAPITAL LETTER=JIL KAN KHAR LAS MAN NAR ON PAR PHAR QAR",
   "GEORGIAN LETTER,GEORGIAN MTAVRULI CAPITAL LETTER=RAE SAN SHIN TAN TAR UN VIN WE XAN YN ZEN",
   "GEORGIAN LETTER,GEORGIAN MTAVRULI CAPITAL LETTER=ZHAR",
   "GEORGIAN MTAVRULI CAPITAL LETTER HARD,GEORGIAN MTAVRULI CAPITAL LETTER LABIAL=SIGN",
   "GERMAN PENNY,GREATER-THAN,GREEK AROURA,GREEK ARTABE,GREEK DRACHMA=SIGN",
   "GLAGOLITIC CAPITAL LETTER BIG,GLAGOLITIC CAPITAL LETTER IOTATED BIG=YUS",
   "GLAGOLITIC CAPITAL LETTER CAUDATE,GLAGOLITIC SMALL LETTER CAUDATE=CHRIVI",
   "GLAGOLITIC CAPITAL LETTER IOTATED SMALL,GLAGOLITIC CAPITAL LETTER SMALL=YUS",
   "GLAGOLITIC CAPITAL LETTER LATINATE,GLAGOLITIC SMALL LETTER LATINATE=MYSLITE",
   "GLAGOLITIC CAPITAL LETTER SMALL YUS WITH=TAIL",
   "GLAGOLITIC CAPITAL LETTER SPIDERY,GLAGOLITIC SMALL LETTER SPIDERY=HA",
   "GLAGOLITIC CAPITAL LETTER TROKUTASTI,GLAGOLITIC SMALL LETTER TROKUTASTI=A",
   "GLAGOLITIC CAPITAL LETTER,GLAGOLITIC SMALL LETTER=AZU BUKY CHRIVI DJERVI DOBRO DZELO FITA",
   "GLAGOLITIC CAPITAL LETTER,GLAGOLITIC SMALL LETTER=FRITU GLAGOLI HERU I IZHE IZHITSA KAKO",
   "GLAGOLITIC CAPITAL LETTER,GLAGOLITIC SMALL LETTER=LJUDIJE MYSLITE NASHI ONU OTU PE POKOJI",
   "GLAGOLITIC CAPITAL LETTER,GLAGOLITIC SMALL LETTER=RITSI SHA SHTA SHTAPIC SLOVO TSI TVRIDO",
   "GLAGOLITIC CAPITAL LETTER,GLAGOLITIC SMALL LETTER=UKU VEDE YATI YERI YERU YESTU YO YU ZEMLJA",
   "GLAGOLITIC CAPITAL LETTER,GLAGOLITIC SMALL LETTER=ZHIVETE",
   "GLAGOLITIC SMALL LETTER BIG,GLAGOLITIC SMALL LETTER IOTATED BIG=YUS",
   "GLAGOLITIC SMALL LETTER INITIAL=IZHE",
   "GLAGOLITIC SMALL LETTER IOTATED SMALL,GLAGOLITIC SMALL LETTER SMALL=YUS",
   "GLAGOLITIC SMALL LETTER SMALL YUS WITH,LATIN CAPITAL LETTER P WITH SQUIRREL=TAIL",
   "GLASS OF=MILK",
   "GLEICH=STARK",
   "GLOBE WITH=MERIDIANS",
   "GOAL=NET",
   "GOTHIC LETTER=AHSA AIHVUS BAIRKAN DAGS EIS FAIHU GIBA HAGL HWAIR IGGWS IUJA JER KUSMA LAGUS",
   "GOTHIC LETTER=MANNA NAUTHS NINETY OTHAL PAIRTHRA QAIRTHRA RAIDA SAUIL TEIWS THIUTH URUS",
   "GOTHIC LETTER=WINJA",
   "GRANTHA LETTER VOCALIC,GRANTHA VOWEL SIGN VOCALIC,GUJARATI LETTER VOCALIC=L LL R RR",
   "GRANTHA LETTER=A AA AI AU BA BHA CA CHA DA DDA DDHA DHA EE GA GHA HA I II JA JHA KA KHA LA",
   "GRANTHA LETTER=LLA MA NA NGA NNA NYA OO PA PHA RA SA SHA SSA TA THA TTA TTHA U UU VA YA",
   "GRANTHA SIGN COMBINING ANUSVARA,GREATER-THAN WITH QUESTION MARK=ABOVE",
   "GRANTHA SIGN=ANUSVARA AVAGRAHA CANDRABINDU NUKTA PLUTA VIRAMA VISARGA",
   "GRANTHA VOWEL SIGN,GUNJALA GONDI VOWEL SIGN,GURMUKHI VOWEL SIGN=AA AI AU EE I II OO U UU",
   "GREATER-THAN ABOVE DOUBLE-LINE EQUAL ABOVE=LESS-THAN",
   "GREATER-THAN ABOVE LESS-THAN ABOVE DOUBLE-LINE,GREATER-THAN ABOVE SIMILAR OR=EQUAL",
   "GREATER-THAN ABOVE SIMILAR ABOVE,GREATER-THAN BESIDE=LESS-THAN",
   "GREATER-THAN ABOVE SLANTED EQUAL ABOVE LESS-THAN ABOVE SLANTED=EQUAL",
   "GREATER-THAN AND NOT,LESS-THAN AND NOT=APPROXIMATE",
   "GREATER-THAN AND SINGLE-LINE NOT EQUAL,GREATER-THAN BUT NOT EQUAL=TO",
   "GREATER-THAN BUT NOT EQUIVALENT,GREATER-THAN OR EQUAL,GREATER-THAN OR EQUIVALENT=TO",
   "GREATER-THAN CLOSED BY CURVE ABOVE SLANTED=EQUAL",
   "GREATER-THAN CLOSED BY,LESS-THAN CLOSED BY=CURVE",
   "GREATER-THAN EQUAL TO OR,GREATER-THAN OVERLAPPING=LESS-THAN",
   "GREATER-THAN OR SLANTED EQUAL TO WITH DOT ABOVE,HEART WITH TIP ON THE=LEFT",
   "GREATER-THAN OR SLANTED EQUAL TO WITH DOT=ABOVE INSIDE",
   "GREATER-THAN OR SLANTED EQUAL,GREATER-THAN OVER EQUAL,IDENTICAL=TO",
   "GREATER-THAN OR=APPROXIMATE LESS-THAN",
   "GREEK ACROPHONIC ATTIC FIFTY THOUSAND,GREEK ACROPHONIC ATTIC TEN THOUSAND=STATERS",
   "GREEK ACROPHONIC ATTIC FIFTY=STATERS TALENTS THOUSAND",
   "GREEK ACROPHONIC ATTIC FIVE HUNDRED,GREEK ACROPHONIC ATTIC ONE HUNDRED=STATERS TALENTS",
   "GREEK ACROPHONIC ATTIC FIVE THOUSAND=TALENTS",
   "GREEK ACROPHONIC ATTIC FIVE=HUNDRED STATERS TALENTS THOUSAND",
   "GREEK ACROPHONIC ATTIC ONE THOUSAND=STATERS TALENTS",
   "GREEK ACROPHONIC ATTIC ONE=DRACHMA HALF QUARTER",
   "GREEK ACROPHONIC ATTIC TEN=MNAS STATERS TALENTS",
   "GREEK ACROPHONIC ATTIC=FIFTY FIVE",
   "GREEK ACROPHONIC CYRENAIC TWO,GREEK ACROPHONIC EPIDAUREAN TWO=DRACHMAS",
   "GREEK ACROPHONIC DELPHIC FIVE,GREEK ACROPHONIC STRATIAN FIFTY=MNAS",
   "GREEK ACROPHONIC EPIDAUREAN FIVE,GREEK ACROPHONIC NAXIAN FIVE=HUNDRED",
   "GREEK ACROPHONIC HERAEUM ONE=PLETHRON",
   "GREEK ACROPHONIC HERMIONIAN=FIFTY ONE TEN",
   "GREEK ACROPHONIC MESSENIAN,KEYCAP,MALAYALAM NUMBER=TEN",
   "GREEK ACROPHONIC THESPIAN FIVE,GREEK ACROPHONIC THESPIAN ONE=HUNDRED THOUSAND",
   "GREEK ACROPHONIC THESPIAN THREE,GREEK ACROPHONIC TROEZENIAN FIVE=HUNDRED",
   "GREEK ACROPHONIC THESPIAN=FIFTY ONE TEN THIRTY TWO",
   "GREEK ACROPHONIC TROEZENIAN FIFTY ALTERNATE=FORM",
   "GREEK ACROPHONIC TROEZENIAN TEN ALTERNATE,GREEK ONE HALF SIGN ALTERNATE=FORM",
   "GREEK ACROPHONIC TROEZENIAN=FIFTY FIVE TEN",
   "GREEK ANO=TELEIA",
   "GREEK CAPITAL DOTTED LUNATE SIGMA,GREEK CAPITAL KAI=SYMBOL",
   "GREEK CAPITAL LETTER ALPHA WITH DASIA AND OXIA AND=PROSGEGRAMMENI",
   "GREEK CAPITAL LETTER ALPHA WITH DASIA AND PERISPOMENI AND=PROSGEGRAMMENI",
   "GREEK CAPITAL LETTER ALPHA WITH DASIA AND VARIA AND=PROSGEGRAMMENI",
   "GREEK CAPITAL LETTER ALPHA WITH DASIA AND=OXIA PERISPOMENI PROSGEGRAMMENI VARIA",
   "GREEK CAPITAL LETTER ALPHA WITH PSILI AND OXIA AND=PROSGEGRAMMENI",
   "GREEK CAPITAL LETTER ALPHA WITH PSILI AND PERISPOMENI AND=PROSGEGRAMMENI",
   "GREEK CAPITAL LETTER ALPHA WITH PSILI AND VARIA AND=PROSGEGRAMMENI",
   "GREEK CAPITAL LETTER ALPHA WITH PSILI AND=OXIA PERISPOMENI PROSGEGRAMMENI VARIA",
   "GREEK CAPITAL LETTER ALPHA WITH=DASIA MACRON OXIA PROSGEGRAMMENI PSILI TONOS VARIA VRACHY",
   "GREEK CAPITAL LETTER ARCHAIC=SAMPI",
   "GREEK CAPITAL LETTER EPSILON WITH DASIA AND=OXIA VARIA",
   "GREEK CAPITAL LETTER EPSILON WITH PSILI AND=OXIA VARIA",
   "GREEK CAPITAL LETTER EPSILON WITH,GREEK CAPITAL LETTER OMICRON WITH=DASIA OXIA PSILI TONOS",
   "GREEK CAPITAL LETTER EPSILON WITH,GREEK CAPITAL LETTER OMICRON WITH=VARIA",
   "GREEK CAPITAL LETTER ETA WITH DASIA AND OXIA AND=PROSGEGRAMMENI",
   "GREEK CAPITAL LETTER ETA WITH DASIA AND PERISPOMENI AND=PROSGEGRAMMENI",
   "GREEK CAPITAL LETTER ETA WITH DASIA AND VARIA AND=PROSGEGRAMMENI",
   "GREEK CAPITAL LETTER ETA WITH DASIA AND=OXIA PERISPOMENI PROSGEGRAMMENI VARIA",
   "GREEK CAPITAL LETTER ETA WITH PSILI AND OXIA AND=PROSGEGRAMMENI",
   "GREEK CAPITAL LETTER ETA WITH PSILI AND PERISPOMENI AND=PROSGEGRAMMENI",
   "GREEK CAPITAL LETTER ETA WITH PSILI AND VARIA AND=PROSGEGRAMMENI",
   "GREEK CAPITAL LETTER ETA WITH PSILI AND=OXIA PERISPOMENI PROSGEGRAMMENI VARIA",
   "GREEK CAPITAL LETTER ETA WITH,GREEK CAPITAL LETTER OMEGA WITH=DASIA OXIA PROSGEGRAMMENI",
   "GREEK CAPITAL LETTER ETA WITH,GREEK CAPITAL LETTER OMEGA WITH=PSILI TONOS VARIA",
   "GREEK CAPITAL LETTER IOTA WITH DASIA AND=OXIA PERISPOMENI VARIA",
   "GREEK CAPITAL LETTER IOTA WITH PSILI AND=OXIA PERISPOMENI VARIA",
   "GREEK CAPITAL LETTER IOTA WITH=DASIA DIALYTIKA MACRON OXIA PSILI TONOS VARIA VRACHY",
   "GREEK CAPITAL LETTER OMEGA WITH DASIA AND OXIA AND=PROSGEGRAMMENI",
   "GREEK CAPITAL LETTER OMEGA WITH DASIA AND PERISPOMENI AND=PROSGEGRAMMENI",
   "GREEK CAPITAL LETTER OMEGA WITH DASIA AND VARIA AND=PROSGEGRAMMENI",
   "GREEK CAPITAL LETTER OMEGA WITH DASIA AND=OXIA PERISPOMENI PROSGEGRAMMENI VARIA",
   "GREEK CAPITAL LETTER OMEGA WITH PSILI AND OXIA AND=PROSGEGRAMMENI",
   "GREEK CAPITAL LETTER OMEGA WITH PSILI AND PERISPOMENI AND=PROSGEGRAMMENI",
   "GREEK CAPITAL LETTER OMEGA WITH PSILI AND VARIA AND=PROSGEGRAMMENI",
   "GREEK CAPITAL LETTER OMEGA WITH PSILI AND=OXIA PERISPOMENI PROSGEGRAMMENI VARIA",
   "GREEK CAPITAL LETTER OMICRON WITH DASIA AND=OXIA VARIA",
   "GREEK CAPITAL LETTER OMICRON WITH PSILI AND=OXIA VARIA",
   "GREEK CAPITAL LETTER PAMPHYLIAN,GREEK SMALL LETTER PAMPHYLIAN=DIGAMMA",
   "GREEK CAPITAL LETTER RHO WITH=DASIA",
   "GREEK CAPITAL LETTER UPSILON WITH DASIA AND,GREEK DASIA AND=OXIA PERISPOMENI VARIA",
   "GREEK CAPITAL LETTER UPSILON WITH=DASIA DIALYTIKA MACRON OXIA TONOS VARIA VRACHY",
   "GREEK CAPITAL LETTER=ALPHA BETA CHI DELTA EPSILON ETA GAMMA HETA IOTA KAPPA LAMDA MU NU",
   "GREEK CAPITAL LETTER=OMEGA OMICRON PHI PI PSI RHO SAN SHO SIGMA TAU THETA UPSILON XI YOT",
   "GREEK CAPITAL LETTER=ZETA",
   "GREEK CAPITAL LUNATE SIGMA,GREEK CAPITAL REVERSED DOTTED LUNATE SIGMA=SYMBOL",
   "GREEK CAPITAL REVERSED LUNATE SIGMA,GREEK CAPITAL THETA,GREEK KAI=SYMBOL",
   "GREEK DIALYTIKA AND,GREEK PSILI AND,GREEK SMALL LETTER IOTA WITH DASIA AND=OXIA PERISPOMENI",
   "GREEK DIALYTIKA AND,GREEK PSILI AND,GREEK SMALL LETTER IOTA WITH DASIA AND=VARIA",
   "GREEK FIVE OBOLS,GREEK FOUR OBOLS,GREEK GRAMMA,GREEK INDICTION=SIGN",
   "GREEK INSTRUMENTAL NOTATION=SYMBOL-1 SYMBOL-11 SYMBOL-12 SYMBOL-13 SYMBOL-14 SYMBOL-17",
   "GREEK INSTRUMENTAL NOTATION=SYMBOL-18 SYMBOL-19 SYMBOL-2 SYMBOL-23 SYMBOL-24 SYMBOL-25",
   "GREEK INSTRUMENTAL NOTATION=SYMBOL-26 SYMBOL-27 SYMBOL-29 SYMBOL-30 SYMBOL-32 SYMBOL-36",
   "GREEK INSTRUMENTAL NOTATION=SYMBOL-37 SYMBOL-38 SYMBOL-39 SYMBOL-4 SYMBOL-40 SYMBOL-42",
   "GREEK INSTRUMENTAL NOTATION=SYMBOL-43 SYMBOL-45 SYMBOL-47 SYMBOL-48 SYMBOL-49 SYMBOL-5",
   "GREEK INSTRUMENTAL NOTATION=SYMBOL-50 SYMBOL-51 SYMBOL-52 SYMBOL-53 SYMBOL-54 SYMBOL-7",
   "GREEK INSTRUMENTAL NOTATION=SYMBOL-8",
   "GREEK KAPPA,GREEK LUNATE EPSILON,GREEK LUNATE SIGMA,GREEK PHI,GREEK PI=SYMBOL",
   "GREEK KYATHOS BASE,GREEK LITRA,GREEK LOWER NUMERAL,GREEK METRETES=SIGN",
   "GREEK LETTER ARCHAIC=KOPPA",
   "GREEK LETTER SMALL CAPITAL=GAMMA LAMDA OMEGA PI PSI RHO",
   "GREEK LETTER=DIGAMMA KOPPA SAMPI STIGMA YOT",
   "GREEK MUSICAL=LEIMMA",
   "GREEK NUMERAL,GREEK OBOL,GREEK ONE HALF,GREEK ONE QUARTER,GREEK OUNKIA=SIGN",
   "GREEK REVERSED LUNATE EPSILON,GREEK RHO,GREEK RHO WITH STROKE=SYMBOL",
   "GREEK SINUSOID,GREEK TALENT,GREEK THREE OBOLS,GREEK THREE QUARTERS=SIGN",
   "GREEK SMALL DOTTED LUNATE SIGMA,GREEK SMALL REVERSED DOTTED LUNATE SIGMA=SYMBOL",
   "GREEK SMALL LETTER ALPHA WITH DASIA AND OXIA AND=YPOGEGRAMMENI",
   "GREEK SMALL LETTER ALPHA WITH DASIA AND PERISPOMENI AND=YPOGEGRAMMENI",
   "GREEK SMALL LETTER ALPHA WITH DASIA AND VARIA AND=YPOGEGRAMMENI",
   "GREEK SMALL LETTER ALPHA WITH DASIA AND=OXIA PERISPOMENI VARIA YPOGEGRAMMENI",
   "GREEK SMALL LETTER ALPHA WITH OXIA AND=YPOGEGRAMMENI",
   "GREEK SMALL LETTER ALPHA WITH PERISPOMENI AND=YPOGEGRAMMENI",
   "GREEK SMALL LETTER ALPHA WITH PSILI AND OXIA AND=YPOGEGRAMMENI",
   "GREEK SMALL LETTER ALPHA WITH PSILI AND PERISPOMENI AND=YPOGEGRAMMENI",
   "GREEK SMALL LETTER ALPHA WITH PSILI AND VARIA AND=YPOGEGRAMMENI",
   "GREEK SMALL LETTER ALPHA WITH PSILI AND,GREEK SMALL LETTER ETA WITH DASIA AND=OXIA",
   "GREEK SMALL LETTER ALPHA WITH PSILI AND,GREEK SMALL LETTER ETA WITH DASIA AND=PERISPOMENI",
   "GREEK SMALL LETTER ALPHA WITH PSILI AND,GREEK SMALL LETTER ETA WITH DASIA AND=VARIA",
   "GREEK SMALL LETTER ALPHA WITH PSILI AND,GREEK SMALL LETTER ETA WITH DASIA AND=YPOGEGRAMMENI",
   "GREEK SMALL LETTER ALPHA WITH VARIA AND=YPOGEGRAMMENI",
   "GREEK SMALL LETTER ALPHA WITH=DASIA MACRON OXIA PERISPOMENI PSILI TONOS VARIA VRACHY",
   "GREEK SMALL LETTER ALPHA WITH=YPOGEGRAMMENI",
   "GREEK SMALL LETTER ARCHAIC=KOPPA SAMPI",
   "GREEK SMALL LETTER EPSILON WITH DASIA AND=OXIA VARIA",
   "GREEK SMALL LETTER EPSILON WITH PSILI AND=OXIA VARIA",
   "GREEK SMALL LETTER EPSILON WITH,GREEK SMALL LETTER OMICRON WITH=DASIA OXIA PSILI TONOS VARIA",
   "GREEK SMALL LETTER ETA WITH DASIA AND OXIA AND=YPOGEGRAMMENI",
   "GREEK SMALL LETTER ETA WITH DASIA AND PERISPOMENI AND=YPOGEGRAMMENI",
   "GREEK SMALL LETTER ETA WITH DASIA AND VARIA AND=YPOGEGRAMMENI",
   "GREEK SMALL LETTER ETA WITH OXIA AND=YPOGEGRAMMENI",
   "GREEK SMALL LETTER ETA WITH PERISPOMENI AND=YPOGEGRAMMENI",
   "GREEK SMALL LETTER ETA WITH PSILI AND OXIA AND=YPOGEGRAMMENI",
   "GREEK SMALL LETTER ETA WITH PSILI AND PERISPOMENI AND=YPOGEGRAMMENI",
   "GREEK SMALL LETTER ETA WITH PSILI AND VARIA AND=YPOGEGRAMMENI",
   "GREEK SMALL LETTER ETA WITH PSILI AND,GREEK SMALL LETTER OMEGA WITH DASIA AND=OXIA",
   "GREEK SMALL LETTER ETA WITH PSILI AND,GREEK SMALL LETTER OMEGA WITH DASIA AND=PERISPOMENI",
   "GREEK SMALL LETTER ETA WITH PSILI AND,GREEK SMALL LETTER OMEGA WITH DASIA AND=VARIA",
   "GREEK SMALL LETTER ETA WITH PSILI AND,GREEK SMALL LETTER OMEGA WITH DASIA AND=YPOGEGRAMMENI",
   "GREEK SMALL LETTER ETA WITH VARIA AND=YPOGEGRAMMENI",
   "GREEK SMALL LETTER ETA WITH,GREEK SMALL LETTER OMEGA WITH=DASIA OXIA PERISPOMENI PSILI TONOS",
   "GREEK SMALL LETTER ETA WITH,GREEK SMALL LETTER OMEGA WITH=VARIA YPOGEGRAMMENI",
   "GREEK SMALL LETTER FINAL,MATHEMATICAL BOLD ITALIC SMALL FINAL=SIGMA",
   "GREEK SMALL LETTER IOTA WITH DIALYTIKA AND=OXIA PERISPOMENI TONOS VARIA",
   "GREEK SMALL LETTER IOTA WITH PSILI AND=OXIA PERISPOMENI VARIA",
   "GREEK SMALL LETTER IOTA WITH,GREEK SMALL LETTER UPSILON WITH=DASIA DIALYTIKA MACRON OXIA",
   "GREEK SMALL LETTER IOTA WITH,GREEK SMALL LETTER UPSILON WITH=PERISPOMENI PSILI TONOS VARIA",
   "GREEK SMALL LETTER IOTA WITH,GREEK SMALL LETTER UPSILON WITH=VRACHY",
   "GREEK SMALL LETTER OMEGA WITH DASIA AND OXIA AND=YPOGEGRAMMENI",
   "GREEK SMALL LETTER OMEGA WITH DASIA AND PERISPOMENI AND=YPOGEGRAMMENI",
   "GREEK SMALL LETTER OMEGA WITH DASIA AND VARIA AND=YPOGEGRAMMENI",
   "GREEK SMALL LETTER OMEGA WITH OXIA AND=YPOGEGRAMMENI",
   "GREEK SMALL LETTER OMEGA WITH PERISPOMENI AND=YPOGEGRAMMENI",
   "GREEK SMALL LETTER OMEGA WITH PSILI AND OXIA AND=YPOGEGRAMMENI",
   "GREEK SMALL LETTER OMEGA WITH PSILI AND PERISPOMENI AND=YPOGEGRAMMENI",
   "GREEK SMALL LETTER OMEGA WITH PSILI AND VARIA AND=YPOGEGRAMMENI",
   "GREEK SMALL LETTER OMEGA WITH PSILI AND=OXIA PERISPOMENI VARIA YPOGEGRAMMENI",
   "GREEK SMALL LETTER OMEGA WITH VARIA AND=YPOGEGRAMMENI",
   "GREEK SMALL LETTER OMICRON WITH DASIA AND=OXIA VARIA",
   "GREEK SMALL LETTER OMICRON WITH PSILI AND=OXIA VARIA",
   "GREEK SMALL LETTER RHO WITH=DASIA PSILI",
   "GREEK SMALL LETTER UPSILON WITH DASIA AND=OXIA PERISPOMENI VARIA",
   "GREEK SMALL LETTER UPSILON WITH DIALYTIKA AND=OXIA PERISPOMENI TONOS VARIA",
   "GREEK SMALL LETTER UPSILON WITH PSILI AND=OXIA PERISPOMENI VARIA",
   "GREEK SMALL LETTER=ALPHA BETA CHI DELTA DIGAMMA EPSILON ETA GAMMA HETA IOTA KAPPA KOPPA",
   "GREEK SMALL LETTER=LAMDA MU NU OMEGA OMICRON PHI PI PSI RHO SAMPI SAN SHO SIGMA STIGMA TAU",
   "GREEK SMALL LETTER=THETA UPSILON XI ZETA",
   "GREEK SMALL REVERSED LUNATE SIGMA,GREEK THETA=SYMBOL",
   "GREEK SUBSCRIPT SMALL LETTER=BETA CHI GAMMA PHI RHO",
   "GREEK TRYBLION BASE,GREEK TWO OBOLS,GREEK TWO THIRDS,GREEK XESTES,GREEK YEAR=SIGN",
   "GREEK UPSILON WITH ACUTE AND HOOK,GREEK UPSILON WITH DIAERESIS AND HOOK=SYMBOL",
   "GREEK UPSILON WITH HOOK,HEADSTONE GRAVEYARD,HELLSCHREIBER PAUSE,HELM=SYMBOL",
   "GREEK VOCAL NOTATION=SYMBOL-1 SYMBOL-10 SYMBOL-11 SYMBOL-12 SYMBOL-13 SYMBOL-14 SYMBOL-15",
   "GREEK VOCAL NOTATION=SYMBOL-16 SYMBOL-17 SYMBOL-18 SYMBOL-19 SYMBOL-2 SYMBOL-20 SYMBOL-21",
   "GREEK VOCAL NOTATION=SYMBOL-22 SYMBOL-23 SYMBOL-24 SYMBOL-3 SYMBOL-4 SYMBOL-5 SYMBOL-50",
   "GREEK VOCAL NOTATION=SYMBOL-51 SYMBOL-52 SYMBOL-53 SYMBOL-54 SYMBOL-6 SYMBOL-7 SYMBOL-8",
   "GREEK VOCAL NOTATION=SYMBOL-9",
   "GREEK ZERO,GUARANI,GUJARATI ABBREVIATION,GUJARATI RUPEE,GURMUKHI ABBREVIATION=SIGN",
   "GREEK=DASIA KORONIS OXIA PERISPOMENI PROSGEGRAMMENI PSILI TONOS VARIA YPOGEGRAMMENI",
   "GREEN=APPLE BOOK HEART SALAD",
   "GRINNING FACE WITH ONE LARGE AND ONE SMALL=EYE",
   "GRINNING FACE WITH SMILING,GRINNING FACE WITH STAR=EYES",
   "GROUP=MARK SEPARATOR",
   "GUIDE=DOG",
   "GUJARATI LETTER=A AA AI AU BA BHA CA CHA DA DDA DDHA DHA E GA GHA HA I II JA JHA KA KHA LA",
   "GUJARATI LETTER=LLA MA NA NGA NNA NYA O PA PHA RA SA SHA SSA TA THA TTA TTHA U UU VA YA ZHA",
   "GUJARATI SIGN CIRCLE NUKTA,GUJARATI SIGN THREE-DOT NUKTA=ABOVE",
   "GUJARATI SIGN TWO-CIRCLE NUKTA,HEAVY CIRCLE WITH STROKE AND TWO DOTS=ABOVE",
   "GUJARATI SIGN=ANUSVARA AVAGRAHA CANDRABINDU MADDAH NUKTA SHADDA SUKUN VIRAMA VISARGA",
   "GUJARATI VOWEL SIGN CANDRA,LATIN CAPITAL LETTER OPEN=E O",
   "GUJARATI VOWEL SIGN VOCALIC,KANNADA LETTER VOCALIC,KANNADA VOWEL SIGN VOCALIC=L LL R RR",
   "GUJARATI VOWEL SIGN,KAITHI VOWEL SIGN,KHUDAWADI VOWEL SIGN=AA AI AU E I II O U UU",
   "GUNJALA GONDI DIGIT,GURMUKHI DIGIT,HANIFI ROHINGYA DIGIT,JAVANESE DIGIT=EIGHT FIVE FOUR NINE",
   "GUNJALA GONDI DIGIT,GURMUKHI DIGIT,HANIFI ROHINGYA DIGIT,JAVANESE DIGIT=ONE SEVEN SIX THREE",
   "GUNJALA GONDI DIGIT,GURMUKHI DIGIT,HANIFI ROHINGYA DIGIT,JAVANESE DIGIT=TWO ZERO",
   "GUNJALA GONDI LETTER=A AA AI AU BA BHA CA CHA DA DDA DDHA DHA EE GA GHA HA I II JA JHA KA",
   "GUNJALA GONDI LETTER=KHA LA LLA MA NA NGA OO PA PHA RA SA TA THA TTA TTHA U UU VA YA",
   "GUNJALA GONDI SIGN=ANUSVARA VISARGA",
   "GUNJALA GONDI=OM VIRAMA",
   "GURMUKHI EK=ONKAR",
   "GURMUKHI LETTER=A AA AI AU BA BHA CA CHA DA DDA DDHA DHA EE FA GA GHA GHHA HA I II JA JHA KA",
   "GURMUKHI LETTER=KHA KHHA LA LLA MA NA NGA NNA NYA OO PA PHA RA RRA SA SHA TA THA TTA TTHA U",
   "GURMUKHI LETTER=UU VA YA ZA",
   "GURMUKHI SIGN ADAK=BINDI",
   "GURMUKHI SIGN=BINDI NUKTA UDAAT VIRAMA VISARGA YAKASH",
   "GURMUKHI=ADDAK IRI TIPPI URA",
   "HALFWIDTH DOWNWARDS,HALFWIDTH LEFTWARDS,HALFWIDTH RIGHTWARDS=ARROW",
   "HALFWIDTH FORMS LIGHT,LONG DASH FROM LEFT MEMBER OF DOUBLE=VERTICAL",
   "HALFWIDTH HANGUL LETTER=A AE CHIEUCH CIEUC E EO EU HIEUH I IEUNG KHIEUKH KIYEOK KIYEOK-SIOS",
   "HALFWIDTH HANGUL LETTER=MIEUM NIEUN NIEUN-CIEUC NIEUN-HIEUH O OE PHIEUPH PIEUP PIEUP-SIOS",
   "HALFWIDTH HANGUL LETTER=RIEUL RIEUL-HIEUH RIEUL-KIYEOK RIEUL-MIEUM RIEUL-PHIEUPH RIEUL-PIEUP",
   "HALFWIDTH HANGUL LETTER=RIEUL-SIOS RIEUL-THIEUTH SIOS SSANGCIEUC SSANGKIYEOK SSANGPIEUP",
   "HALFWIDTH HANGUL LETTER=SSANGSIOS SSANGTIKEUT THIEUTH TIKEUT U WA WAE WE WEO WI YA YAE YE",
   "HALFWIDTH HANGUL LETTER=YEO YI YO YU",
   "HALFWIDTH IDEOGRAPHIC FULL,IDEOGRAPHIC FULL,LATIN LETTER GLOTTAL=STOP",
   "HALFWIDTH KATAKANA LETTER SMALL=A E I O TU U YA YO YU",
   "HALFWIDTH KATAKANA LETTER=A E HA HE HI HO HU I KA KE KI KO KU MA ME MI MO MU N NA NE NI NO",
   "HALFWIDTH KATAKANA LETTER=NU O RA RE RI RO RU SA SE SI SO SU TA TE TI TO TU U WA WO YA YO YU",
   "HALFWIDTH KATAKANA SEMI-VOICED SOUND,HALFWIDTH KATAKANA VOICED SOUND=MARK",
   "HALFWIDTH KATAKANA-HIRAGANA PROLONGED SOUND,HANGUL DOUBLE DOT TONE=MARK",
   "HALFWIDTH UPWARDS,HEAVY BLACK CURVED DOWNWARDS AND RIGHTWARDS=ARROW",
   "HAMMER AND=PICK SICKLE WRENCH",
   "HAND WITH INDEX AND MIDDLE FINGERS,HAND WITH INDEX FINGER AND THUMB=CROSSED",
   "HANGUL CHOSEONG=CEONGCHIEUMCHIEUCH CEONGCHIEUMCIEUC CEONGCHIEUMSIOS CEONGCHIEUMSSANGCIEUC",
   "HANGUL CHOSEONG=CEONGCHIEUMSSANGSIOS CHIEUCH CHIEUCH-HIEUH CHIEUCH-KHIEUKH CHITUEUMCHIEUCH",
   "HANGUL CHOSEONG=CHITUEUMCIEUC CHITUEUMSIOS CHITUEUMSSANGCIEUC CHITUEUMSSANGSIOS CIEUC",
   "HANGUL CHOSEONG=CIEUC-IEUNG FILLER HIEUH HIEUH-SIOS IEUNG IEUNG-CHIEUCH IEUNG-CIEUC",
   "HANGUL CHOSEONG=IEUNG-HIEUH IEUNG-KIYEOK IEUNG-MIEUM IEUNG-PANSIOS IEUNG-PHIEUPH IEUNG-PIEUP",
   "HANGUL CHOSEONG=IEUNG-RIEUL IEUNG-SIOS IEUNG-THIEUTH IEUNG-TIKEUT KAPYEOUNMIEUM",
   "HANGUL CHOSEONG=KAPYEOUNPHIEUPH KAPYEOUNPIEUP KAPYEOUNRIEUL KAPYEOUNSSANGPIEUP KHIEUKH",
   "HANGUL CHOSEONG=KIYEOK KIYEOK-TIKEUT MIEUM MIEUM-KIYEOK MIEUM-PIEUP MIEUM-SIOS MIEUM-TIKEUT",
   "HANGUL CHOSEONG=NIEUN NIEUN-CIEUC NIEUN-HIEUH NIEUN-KIYEOK NIEUN-PIEUP NIEUN-SIOS",
   "HANGUL CHOSEONG=NIEUN-TIKEUT PANSIOS PHIEUPH PHIEUPH-HIEUH PHIEUPH-PIEUP PIEUP PIEUP-CHIEUCH",
   "HANGUL CHOSEONG=PIEUP-CIEUC PIEUP-HIEUH PIEUP-KHIEUKH PIEUP-KIYEOK PIEUP-NIEUN PIEUP-PHIEUPH",
   "HANGUL CHOSEONG=PIEUP-SIOS PIEUP-SIOS-CIEUC PIEUP-SIOS-KIYEOK PIEUP-SIOS-PIEUP",
   "HANGUL CHOSEONG=PIEUP-SIOS-THIEUTH PIEUP-SIOS-TIKEUT PIEUP-SSANGSIOS PIEUP-THIEUTH",
   "HANGUL CHOSEONG=PIEUP-TIKEUT RIEUL RIEUL-CIEUC RIEUL-HIEUH RIEUL-KAPYEOUNPIEUP RIEUL-KHIEUKH",
   "HANGUL CHOSEONG=RIEUL-KIYEOK RIEUL-MIEUM RIEUL-NIEUN RIEUL-PIEUP RIEUL-SIOS",
   "HANGUL CHOSEONG=RIEUL-SSANGKIYEOK RIEUL-SSANGPIEUP RIEUL-SSANGTIKEUT RIEUL-TIKEUT SIOS",
   "HANGUL CHOSEONG=SIOS-CHIEUCH SIOS-CIEUC SIOS-HIEUH SIOS-IEUNG SIOS-KHIEUKH SIOS-KIYEOK",
   "HANGUL CHOSEONG=SIOS-MIEUM SIOS-NIEUN SIOS-PHIEUPH SIOS-PIEUP SIOS-PIEUP-KIYEOK SIOS-RIEUL",
   "HANGUL CHOSEONG=SIOS-SSANGSIOS SIOS-THIEUTH SIOS-TIKEUT SSANGCIEUC SSANGCIEUC-HIEUH",
   "HANGUL CHOSEONG=SSANGHIEUH SSANGIEUNG SSANGKIYEOK SSANGNIEUN SSANGPIEUP SSANGRIEUL SSANGSIOS",
   "HANGUL CHOSEONG=SSANGSIOS-PIEUP SSANGTHIEUTH SSANGTIKEUT SSANGYEORINHIEUH THIEUTH TIKEUT",
   "HANGUL CHOSEONG=TIKEUT-CIEUC TIKEUT-KIYEOK TIKEUT-MIEUM TIKEUT-PIEUP TIKEUT-RIEUL",
   "HANGUL CHOSEONG=TIKEUT-SIOS YEORINHIEUH YESIEUNG",
   "HANGUL JONGSEONG=CHIEUCH CIEUC CIEUC-PIEUP CIEUC-SSANGPIEUP HIEUH HIEUH-MIEUM HIEUH-NIEUN",
   "HANGUL JONGSEONG=HIEUH-PIEUP HIEUH-RIEUL IEUNG IEUNG-KHIEUKH IEUNG-KIYEOK IEUNG-SSANGKIYEOK",
   "HANGUL JONGSEONG=KAPYEOUNMIEUM KAPYEOUNPHIEUPH KAPYEOUNPIEUP KAPYEOUNRIEUL KHIEUKH KIYEOK",
   "HANGUL JONGSEONG=KIYEOK-CHIEUCH KIYEOK-HIEUH KIYEOK-KHIEUKH KIYEOK-NIEUN KIYEOK-PIEUP",
   "HANGUL JONGSEONG=KIYEOK-RIEUL KIYEOK-SIOS KIYEOK-SIOS-KIYEOK MIEUM MIEUM-CHIEUCH MIEUM-CIEUC",
   "HANGUL JONGSEONG=MIEUM-HIEUH MIEUM-KIYEOK MIEUM-NIEUN MIEUM-PANSIOS MIEUM-PIEUP",
   "HANGUL JONGSEONG=MIEUM-PIEUP-SIOS MIEUM-RIEUL MIEUM-SIOS MIEUM-SSANGNIEUN MIEUM-SSANGSIOS",
   "HANGUL JONGSEONG=NIEUN NIEUN-CHIEUCH NIEUN-CIEUC NIEUN-HIEUH NIEUN-KIYEOK NIEUN-PANSIOS",
   "HANGUL JONGSEONG=NIEUN-RIEUL NIEUN-SIOS NIEUN-THIEUTH NIEUN-TIKEUT PANSIOS",
   "HANGUL JONGSEONG=PANSIOS-KAPYEOUNPIEUP PANSIOS-PIEUP PHIEUPH PHIEUPH-PIEUP PHIEUPH-SIOS",
   "HANGUL JONGSEONG=PHIEUPH-THIEUTH PIEUP PIEUP-CHIEUCH PIEUP-CIEUC PIEUP-HIEUH PIEUP-MIEUM",
   "HANGUL JONGSEONG=PIEUP-PHIEUPH PIEUP-RIEUL PIEUP-RIEUL-PHIEUPH PIEUP-SIOS PIEUP-SIOS-TIKEUT",
   "HANGUL JONGSEONG=PIEUP-TIKEUT RIEUL RIEUL-HIEUH RIEUL-KAPYEOUNPIEUP RIEUL-KHIEUKH",
   "HANGUL JONGSEONG=RIEUL-KIYEOK RIEUL-KIYEOK-HIEUH RIEUL-KIYEOK-SIOS RIEUL-MIEUM",
   "HANGUL JONGSEONG=RIEUL-MIEUM-HIEUH RIEUL-MIEUM-KIYEOK RIEUL-MIEUM-SIOS RIEUL-NIEUN",
   "HANGUL JONGSEONG=RIEUL-PANSIOS RIEUL-PHIEUPH RIEUL-PIEUP RIEUL-PIEUP-HIEUH",
   "HANGUL JONGSEONG=RIEUL-PIEUP-PHIEUPH RIEUL-PIEUP-SIOS RIEUL-PIEUP-TIKEUT RIEUL-SIOS",
   "HANGUL JONGSEONG=RIEUL-SSANGKIYEOK RIEUL-SSANGSIOS RIEUL-THIEUTH RIEUL-TIKEUT",
   "HANGUL JONGSEONG=RIEUL-TIKEUT-HIEUH RIEUL-YEORINHIEUH RIEUL-YEORINHIEUH-HIEUH RIEUL-YESIEUNG",
   "HANGUL JONGSEONG=SIOS SIOS-CHIEUCH SIOS-CIEUC SIOS-HIEUH SIOS-KAPYEOUNPIEUP SIOS-KIYEOK",
   "HANGUL JONGSEONG=SIOS-MIEUM SIOS-PANSIOS SIOS-PIEUP SIOS-RIEUL SIOS-THIEUTH SIOS-TIKEUT",
   "HANGUL JONGSEONG=SSANGCIEUC SSANGIEUNG SSANGKIYEOK SSANGMIEUM SSANGNIEUN SSANGPIEUP",
   "HANGUL JONGSEONG=SSANGRIEUL SSANGRIEUL-KHIEUKH SSANGSIOS SSANGSIOS-KIYEOK SSANGSIOS-TIKEUT",
   "HANGUL JONGSEONG=SSANGTIKEUT SSANGTIKEUT-PIEUP SSANGYESIEUNG THIEUTH TIKEUT TIKEUT-CHIEUCH",
   "HANGUL JONGSEONG=TIKEUT-CIEUC TIKEUT-KIYEOK TIKEUT-PIEUP TIKEUT-RIEUL TIKEUT-SIOS",
   "HANGUL JONGSEONG=TIKEUT-SIOS-KIYEOK TIKEUT-THIEUTH YEORINHIEUH YESIEUNG YESIEUNG-HIEUH",
   "HANGUL JONGSEONG=YESIEUNG-KHIEUKH YESIEUNG-KIYEOK YESIEUNG-MIEUM YESIEUNG-PANSIOS",
   "HANGUL JONGSEONG=YESIEUNG-SIOS YESIEUNG-SSANGKIYEOK",
   "HANGUL JUNGSEONG=A A-EU A-O A-U AE ARAEA ARAEA-A ARAEA-E ARAEA-EO ARAEA-I ARAEA-U E EO EO-EU",
   "HANGUL JUNGSEONG=EO-O EO-U EU EU-A EU-E EU-EO EU-EU EU-O EU-U FILLER I I-A I-ARAEA I-EU I-I",
   "HANGUL JUNGSEONG=I-O I-O-I I-U I-YA I-YA-O I-YAE I-YE I-YEO I-YO I-YU O O-E O-EO O-O O-O-I",
   "HANGUL JUNGSEONG=O-U O-YA O-YAE O-YE O-YEO OE SSANGARAEA U U-A U-AE U-EO-EU U-I-I U-U U-YE",
   "HANGUL JUNGSEONG=U-YEO WA WAE WE WEO WI YA YA-O YA-U YA-YO YAE YE YEO YEO-O YEO-U YEO-YA YI",
   "HANGUL JUNGSEONG=YI-U YO YO-A YO-AE YO-EO YO-I YO-O YO-YA YO-YAE YO-YEO YU YU-A YU-AE YU-E",
   "HANGUL JUNGSEONG=YU-EO YU-I YU-O YU-U YU-YE YU-YEO",
   "HANGUL LETTER=A AE ARAEA ARAEAE CHIEUCH CIEUC E EO EU HIEUH I IEUNG KAPYEOUNMIEUM",
   "HANGUL LETTER=KAPYEOUNPHIEUPH KAPYEOUNPIEUP KAPYEOUNSSANGPIEUP KHIEUKH KIYEOK KIYEOK-SIOS",
   "HANGUL LETTER=MIEUM MIEUM-PANSIOS MIEUM-PIEUP MIEUM-SIOS NIEUN NIEUN-CIEUC NIEUN-HIEUH",
   "HANGUL LETTER=NIEUN-PANSIOS NIEUN-SIOS NIEUN-TIKEUT O OE PANSIOS PHIEUPH PIEUP PIEUP-CIEUC",
   "HANGUL LETTER=PIEUP-KIYEOK PIEUP-SIOS PIEUP-SIOS-KIYEOK PIEUP-SIOS-TIKEUT PIEUP-THIEUTH",
   "HANGUL LETTER=PIEUP-TIKEUT RIEUL RIEUL-HIEUH RIEUL-KIYEOK RIEUL-KIYEOK-SIOS RIEUL-MIEUM",
   "HANGUL LETTER=RIEUL-PANSIOS RIEUL-PHIEUPH RIEUL-PIEUP RIEUL-PIEUP-SIOS RIEUL-SIOS",
   "HANGUL LETTER=RIEUL-THIEUTH RIEUL-TIKEUT RIEUL-YEORINHIEUH SIOS SIOS-CIEUC SIOS-KIYEOK",
   "HANGUL LETTER=SIOS-NIEUN SIOS-PIEUP SIOS-TIKEUT SSANGCIEUC SSANGHIEUH SSANGIEUNG SSANGKIYEOK",
   "HANGUL LETTER=SSANGNIEUN SSANGPIEUP SSANGSIOS SSANGTIKEUT THIEUTH TIKEUT U WA WAE WE WEO WI",
   "HANGUL LETTER=YA YAE YE YEO YEORINHIEUH YESIEUNG YESIEUNG-PANSIOS YESIEUNG-SIOS YI YO YO-I",
   "HANGUL LETTER=YO-YA YO-YAE YU YU-I YU-YE YU-YEO",
   "HANGUL SINGLE DOT TONE,HEAVY CHECK,HIRAGANA ITERATION=MARK",
   "HANGZHOU NUMERAL=EIGHT FIVE FOUR NINE ONE SEVEN SIX TEN THIRTY THREE TWENTY TWO",
   "HANIFI ROHINGYA LETTER KINNA=WA YA",
   "HANIFI ROHINGYA LETTER=A BA CA DA DDA FA GA HA JA KA KHA LA MA NA NGA NYA PA RA RRA SA SHA",
   "HANIFI ROHINGYA LETTER=TA TTA VA WA YA ZA",
   "HANIFI ROHINGYA MARK NA=KHONNA",
   "HANIFI ROHINGYA MARK=SAKIN",
   "HANIFI ROHINGYA SIGN=HARBAHAY TAHALA TANA TASSI",
   "HANIFI ROHINGYA VOWEL=A E I O U",
   "HANUNOO SIGN=PAMUDPOD",
   "HATRAN LETTER=ALEPH AYN BETH DALETH-RESH GIMEL HE HETH KAPH LAMEDH MEM NUN PE QOPH SADHE",
   "HATRAN LETTER=SAMEKH SHIN TAW TETH WAW YODH ZAYN",
   "HATRAN NUMBER ONE,MANICHAEAN NUMBER ONE,NABATAEAN NUMBER ONE=HUNDRED",
   "HATRAN NUMBER,MANICHAEAN NUMBER=FIVE ONE TEN TWENTY",
   "HEAR-NO-EVIL,SEE-NO-EVIL,SPEAK-NO-EVIL=MONKEY",
   "HEART WITH=ARROW RIBBON",
   "HEART=DECORATION HANDS",
   "HEAVY ARROW SHAFT WIDTH ONE=HALF THIRD",
   "HEAVY BALLOT,HEAVY MULTIPLICATION,KANGXI RADICAL DOUBLE,LINEAR A SIGN A711=X",
   "HEAVY BLACK CURVED UPWARDS AND RIGHTWARDS,HEAVY BLACK-FEATHERED NORTH EAST=ARROW",
   "HEAVY BLACK-FEATHERED RIGHTWARDS,HEAVY BLACK-FEATHERED SOUTH EAST=ARROW",
   "HEAVY CHEVRON,TIGHT TRIFOLIATE=SNOWFLAKE",
   "HEAVY CIRCLE WITH CIRCLE,HEAVY OVAL WITH OVAL=INSIDE",
   "HEAVY CONCAVE-POINTED BLACK RIGHTWARDS=ARROW",
   "HEAVY DASHED TRIANGLE-HEADED RIGHTWARDS=ARROW",
   "HEAVY DIVISION,HEAVY DOLLAR,HEAVY EQUALS,HEAVY MINUS,HEAVY PLUS=SIGN",
   "HEAVY DOUBLE COMMA QUOTATION MARK,HEAVY DOUBLE TURNED COMMA QUOTATION MARK=ORNAMENT",
   "HEAVY DOWNWARDS ARROW WITH EQUILATERAL=ARROWHEAD",
   "HEAVY DOWNWARDS ARROW WITH LARGE EQUILATERAL=ARROWHEAD",
   "HEAVY EIGHT POINTED BLACK,HEAVY EIGHT POINTED PINWHEEL=STAR",
   "HEAVY EIGHT POINTED RECTILINEAR BLACK,HEAVY FIVE POINTED BLACK=STAR",
   "HEAVY EIGHT SPOKED,HEAVY EIGHT TEARDROP-SPOKED PROPELLER,HEAVY FIVE SPOKED=ASTERISK",
   "HEAVY EXCLAMATION MARK=ORNAMENT SYMBOL",
   "HEAVY FOUR BALLOON-SPOKED,HEAVY SIX SPOKED,HEAVY TEARDROP-SPOKED=ASTERISK",
   "HEAVY HEART EXCLAMATION MARK,HEAVY INTERROBANG=ORNAMENT",
   "HEAVY LEFT-POINTING ANGLE BRACKET,HEAVY LEFT-POINTING ANGLE QUOTATION MARK=ORNAMENT",
   "HEAVY LEFTWARDS ARROW WITH EQUILATERAL=ARROWHEAD",
   "HEAVY LEFTWARDS ARROW WITH LARGE EQUILATERAL=ARROWHEAD",
   "HEAVY LIGATURE OPEN ET,HEAVY LOW DOUBLE COMMA QUOTATION MARK=ORNAMENT",
   "HEAVY LOW SINGLE COMMA QUOTATION MARK,HEAVY RIGHT-POINTING ANGLE BRACKET=ORNAMENT",
   "HEAVY LOWER RIGHT-SHADOWED WHITE RIGHTWARDS,HEAVY NORTH EAST,HEAVY RIGHTWARDS=ARROW",
   "HEAVY NORTH EAST POINTING,HEAVY NORTH WEST POINTING,HEAVY SOUTH EAST POINTING=BUD",
   "HEAVY OUTLINED BLACK,HEAVY SIX POINTED BLACK,HEAVY TWELVE POINTED BLACK=STAR",
   "HEAVY RIGHT-POINTING ANGLE QUOTATION MARK,HEAVY SANS-SERIF INTERROBANG=ORNAMENT",
   "HEAVY RIGHTWARDS ARROW WITH EQUILATERAL=ARROWHEAD",
   "HEAVY RIGHTWARDS ARROW WITH LARGE EQUILATERAL=ARROWHEAD",
   "HEAVY ROUND-TIPPED RIGHTWARDS,HEAVY SOUTH EAST=ARROW",
   "HEAVY SCRIPT LIGATURE ET,HEAVY SINGLE COMMA QUOTATION MARK=ORNAMENT",
   "HEAVY SINGLE TURNED COMMA QUOTATION MARK,HOLLOW QUILT SQUARE=ORNAMENT",
   "HEAVY SOUTH EAST POINTING VINE,HEAVY SOUTH WEST POINTING VINE,MAPLE=LEAF",
   "HEAVY SOUTH WEST POINTING=BUD",
   "HEAVY TEARDROP-SHANKED RIGHTWARDS,HEAVY TRIANGLE-HEADED RIGHTWARDS=ARROW",
   "HEAVY TEARDROP-SPOKED PINWHEEL,LIGHT EIGHT SPOKED,LIGHT FIVE SPOKED=ASTERISK",
   "HEAVY TWELVE POINTED PINWHEEL,LIGHT FIVE POINTED BLACK=STAR",
   "HEAVY UPPER RIGHT-SHADOWED WHITE RIGHTWARDS,HEAVY WEDGE-TAILED RIGHTWARDS=ARROW",
   "HEAVY UPWARDS ARROW WITH EQUILATERAL=ARROWHEAD",
   "HEAVY UPWARDS ARROW WITH LARGE EQUILATERAL=ARROWHEAD",
   "HEAVY WHITE,LARGE BROWN,LARGE GREEN,LARGE PURPLE,LARGE RED,LARGE YELLOW=CIRCLE SQUARE",
   "HEAVY WIDE-HEADED RIGHTWARDS,LEFT RIGHT,LEFT RIGHT BLACK,LEFT RIGHT DOUBLE=ARROW",
   "HEAVY=ASTERISK CIRCLE SALTIRE SPARKLE",
   "HEBREW ACCENT ATNAH=HAFUKH",
   "HEBREW ACCENT GERESH=MUQDAM",
   "HEBREW ACCENT MERKHA=KEFULA",
   "HEBREW ACCENT QARNEY=PARA",
   "HEBREW ACCENT TELISHA=GEDOLA QETANA",
   "HEBREW ACCENT YERAH BEN=YOMO",
   "HEBREW ACCENT ZAQEF=GADOL QATAN",
   "HEBREW ACCENT=DARGA DEHI ETNAHTA GERESH GERSHAYIM ILUY MAHAPAKH MERKHA MUNAH OLE PASHTA",
   "HEBREW ACCENT=PAZER QADMA REVIA SEGOL SHALSHELET TEVIR TIPEHA YETIV ZARQA ZINOR",
   "HEBREW LETTER ALEF WITH=MAPIQ PATAH QAMATS",
   "HEBREW LETTER ALTERNATIVE PLUS,HIGH VOLTAGE,HORIZONTAL MALE WITH STROKE=SIGN",
   "HEBREW LETTER ALTERNATIVE,OLD SOGDIAN LETTER ALTERNATE=AYIN",
   "HEBREW LETTER BET WITH,HEBREW LETTER KAF WITH,HEBREW LETTER PE WITH=DAGESH RAFE",
   "HEBREW LETTER DALET WITH,HEBREW LETTER FINAL KAF WITH=DAGESH",
   "HEBREW LETTER FINAL PE WITH,HEBREW LETTER GIMEL WITH=DAGESH",
   "HEBREW LETTER FINAL=KAF MEM NUN PE TSADI",
   "HEBREW LETTER HE WITH,HEBREW POINT DAGESH OR=MAPIQ",
   "HEBREW LETTER LAMED WITH,HEBREW LETTER MEM WITH,HEBREW LETTER NUN WITH=DAGESH",
   "HEBREW LETTER QOF WITH,HEBREW LETTER RESH WITH,HEBREW LETTER SAMEKH WITH=DAGESH",
   "HEBREW LETTER SHIN WITH DAGESH AND SHIN,HEBREW LETTER SHIN WITH DAGESH AND SIN=DOT",
   "HEBREW LETTER SHIN WITH SHIN,HEBREW LETTER SHIN WITH SIN,HEBREW MARK LOWER=DOT",
   "HEBREW LETTER SHIN WITH,HEBREW LETTER TAV WITH,HEBREW LETTER TET WITH=DAGESH",
   "HEBREW LETTER TSADI WITH,HEBREW LETTER ZAYIN WITH=DAGESH",
   "HEBREW LETTER VAV WITH=DAGESH HOLAM",
   "HEBREW LETTER WIDE FINAL=MEM",
   "HEBREW LETTER WIDE=ALEF DALET HE KAF LAMED RESH TAV",
   "HEBREW LETTER YOD WITH=DAGESH HIRIQ",
   "HEBREW LETTER=ALEF AYIN BET DALET GIMEL HE HET KAF LAMED MEM NUN PE QOF RESH SAMEKH SHIN TAV",
   "HEBREW LETTER=TET TSADI VAV YOD ZAYIN",
   "HEBREW LIGATURE ALEF=LAMED",
   "HEBREW LIGATURE YIDDISH DOUBLE=VAV YOD",
   "HEBREW LIGATURE YIDDISH VAV=YOD",
   "HEBREW LIGATURE YIDDISH YOD YOD=PATAH",
   "HEBREW MARK MASORA,INVERSE WHITE,KHAROSHTHI PUNCTUATION SMALL,LARGE=CIRCLE",
   "HEBREW MARK UPPER,HEBREW POINT SHIN,HEBREW POINT SIN,KATAKANA MIDDLE=DOT",
   "HEBREW POINT HATAF=PATAH QAMATS SEGOL",
   "HEBREW POINT HOLAM HASER FOR=VAV",
   "HEBREW POINT JUDEO-SPANISH=VARIKA",
   "HEBREW POINT QAMATS=QATAN",
   "HEBREW POINT=HIRIQ HOLAM METEG PATAH QAMATS QUBUTS RAFE SEGOL SHEVA TSERE",
   "HEBREW PUNCTUATION NUN=HAFUKHA",
   "HEBREW PUNCTUATION SOF=PASUQ",
   "HEBREW PUNCTUATION=GERESH GERSHAYIM MAQAF PASEQ",
   "HELMET WITH WHITE,LATIN,LIGHT GREEK,MALTESE,MEDIUM GREEK,ORTHODOX=CROSS",
   "HENTAIGANA LETTER=A-1 A-2 A-3 A-WO E-1 E-2 E-3 E-4 E-5 E-6 HA-1 HA-10 HA-11 HA-2 HA-3 HA-4",
   "HENTAIGANA LETTER=HA-5 HA-6 HA-7 HA-8 HA-9 HE-1 HE-2 HE-3 HE-4 HE-5 HE-6 HE-7 HI-1 HI-2 HI-3",
   "HENTAIGANA LETTER=HI-4 HI-5 HI-6 HI-7 HO-1 HO-2 HO-3 HO-4 HO-5 HO-6 HO-7 HO-8 HU-1 HU-2 HU-3",
   "HENTAIGANA LETTER=I-1 I-2 I-3 I-4 KA-1 KA-10 KA-11 KA-2 KA-3 KA-4 KA-5 KA-6 KA-7 KA-8 KA-9",
   "HENTAIGANA LETTER=KA-KE KE-1 KE-2 KE-3 KE-4 KE-5 KE-6 KI-1 KI-2 KI-3 KI-4 KI-5 KI-6 KI-7",
   "HENTAIGANA LETTER=KI-8 KO-1 KO-2 KO-3 KO-KI KU-1 KU-2 KU-3 KU-4 KU-5 KU-6 KU-7 MA-1 MA-2",
   "HENTAIGANA LETTER=MA-3 MA-4 MA-5 MA-6 MA-7 ME-1 ME-2 ME-MA MI-1 MI-2 MI-3 MI-4 MI-5 MI-6",
   "HENTAIGANA LETTER=MI-7 MO-1 MO-2 MO-3 MO-4 MO-5 MO-6 MU-1 MU-2 MU-3 MU-4 N-MU-MO-1 N-MU-MO-2",
   "HENTAIGANA LETTER=NA-1 NA-2 NA-3 NA-4 NA-5 NA-6 NA-7 NA-8 NA-9 NE-1 NE-2 NE-3 NE-4 NE-5 NE-6",
   "HENTAIGANA LETTER=NE-KO NI-1 NI-2 NI-3 NI-4 NI-5 NI-6 NI-7 NI-TE NO-1 NO-2 NO-3 NO-4 NO-5",
   "HENTAIGANA LETTER=NU-1 NU-2 NU-3 O-1 O-2 O-3 RA-1 RA-2 RA-3 RA-4 RE-1 RE-2 RE-3 RE-4 RI-1",
   "HENTAIGANA LETTER=RI-2 RI-3 RI-4 RI-5 RI-6 RI-7 RO-1 RO-2 RO-3 RO-4 RO-5 RO-6 RU-1 RU-2 RU-3",
   "HENTAIGANA LETTER=RU-4 RU-5 RU-6 SA-1 SA-2 SA-3 SA-4 SA-5 SA-6 SA-7 SA-8 SE-1 SE-2 SE-3 SE-4",
   "HENTAIGANA LETTER=SE-5 SI-1 SI-2 SI-3 SI-4 SI-5 SI-6 SO-1 SO-2 SO-3 SO-4 SO-5 SO-6 SO-7 SU-1",
   "HENTAIGANA LETTER=SU-2 SU-3 SU-4 SU-5 SU-6 SU-7 SU-8 TA-1 TA-2 TA-3 TA-4 TE-1 TE-2 TE-3 TE-4",
   "HENTAIGANA LETTER=TE-5 TE-6 TE-7 TE-8 TE-9 TI-1 TI-2 TI-3 TI-4 TI-5 TI-6 TI-7 TO-1 TO-2 TO-3",
   "HENTAIGANA LETTER=TO-4 TO-5 TO-6 TO-RA TU-1 TU-2 TU-3 TU-4 TU-TO U-1 U-2 U-3 U-4 U-5 WA-1",
   "HENTAIGANA LETTER=WA-2 WA-3 WA-4 WA-5 WE-1 WE-2 WE-3 WE-4 WI-1 WI-2 WI-3 WI-4 WI-5 WO-1 WO-2",
   "HENTAIGANA LETTER=WO-3 WO-4 WO-5 WO-6 WO-7 YA-1 YA-2 YA-3 YA-4 YA-5 YA-YO YO-1 YO-2 YO-3",
   "HENTAIGANA LETTER=YO-4 YO-5 YO-6 YU-1 YU-2 YU-3 YU-4",
   "HERMITIAN CONJUGATE=MATRIX",
   "HEXAGRAM FOR AFTER,HEXAGRAM FOR BEFORE=COMPLETION",
   "HEXAGRAM FOR BITING=THROUGH",
   "HEXAGRAM FOR COMING TO,TETRAGRAM FOR GOING TO=MEET",
   "HEXAGRAM FOR DARKENING OF THE,HORIZONTAL TRAFFIC,POLICE CARS REVOLVING=LIGHT",
   "HEXAGRAM FOR DIFFICULTY AT THE=BEGINNING",
   "HEXAGRAM FOR GATHERING,HEXAGRAM FOR HOLDING,PALMS UP=TOGETHER",
   "HEXAGRAM FOR GREAT=POSSESSION POWER PREPONDERANCE TAMING",
   "HEXAGRAM FOR INNER=TRUTH",
   "HEXAGRAM FOR MOUTH,SQUARE FOUR,TRIANGLE WITH ROUNDED=CORNERS",
   "HEXAGRAM FOR PUSHING=UPWARD",
   "HEXAGRAM FOR SMALL=PREPONDERANCE TAMING",
   "HEXAGRAM FOR SPLITTING=APART",
   "HEXAGRAM FOR THE ABYSMAL=WATER",
   "HEXAGRAM FOR THE AROUSING=THUNDER",
   "HEXAGRAM FOR THE CLINGING=FIRE",
   "HEXAGRAM FOR THE CREATIVE=HEAVEN",
   "HEXAGRAM FOR THE GENTLE,LEAF FLUTTERING IN,MAHJONG TILE EAST=WIND",
   "HEXAGRAM FOR THE JOYOUS=LAKE",
   "HEXAGRAM FOR THE KEEPING STILL,SNOW CAPPED=MOUNTAIN",
   "HEXAGRAM FOR THE MARRYING=MAIDEN",
   "HEXAGRAM FOR THE=ARMY CAULDRON FAMILY WANDERER WELL",
   "HEXAGRAM FOR WORK ON THE=DECAYED",
   "HEXAGRAM FOR YOUTHFUL=FOLLY",
   "HEXAGRAM FOR=ABUNDANCE APPROACH BREAKTHROUGH CONFLICT CONTEMPLATION DECREASE DELIVERANCE",
   "HEXAGRAM FOR=DEVELOPMENT DISPERSION DURATION ENTHUSIASM FELLOWSHIP FOLLOWING GRACE INCREASE",
   "HEXAGRAM FOR=INFLUENCE INNOCENCE LIMITATION MODESTY OBSTRUCTION OPPOSITION OPPRESSION PEACE",
   "HEXAGRAM FOR=PROGRESS RETREAT RETURN REVOLUTION STANDSTILL TREADING WAITING",
   "HIGH BRIGHTNESS,HUNDRED POINTS,HYSTERESIS=SYMBOL",
   "HIGH OCTET=PRESET",
   "HIGH-SPEED TRAIN WITH BULLET=NOSE",
   "HIGH-SPEED=TRAIN",
   "HIKING,SKI AND SKI=BOOT",
   "HINDU=TEMPLE",
   "HIRAGANA DIGRAPH=YORI",
   "HIRAGANA LETTER ARCHAIC=WU YE",
   "HIRAGANA LETTER SMALL=A E I KA KE O TU U WA WE WI WO YA YO YU",
   "HIRAGANA LETTER=A BA BE BI BO BU DA DE DI DO DU E GA GE GI GO GU HA HE HI HO HU I KA KE KI",
   "HIRAGANA LETTER=KO KU MA ME MI MO MU N NA NE NI NO NU O PA PE PI PO PU RA RE RI RO RU SA SE",
   "HIRAGANA LETTER=SI SO SU TA TE TI TO TU U VU WA WE WI WO YA YO YU ZA ZE ZI ZO ZU",
   "HIRAGANA VOICED ITERATION,IDEOGRAPHIC ANNOTATION BOTTOM=MARK",
   "HISTORIC=SITE",
   "HOLLOW QUILT SQUARE ORNAMENT IN BLACK,LIGHT WHITE=SQUARE",
   "HONEY=POT",
   "HORIZONTAL BLACK=HEXAGON OCTAGON",
   "HORIZONTAL ONE EIGHTH=BLOCK-1358 BLOCK-2 BLOCK-3 BLOCK-4 BLOCK-5 BLOCK-6 BLOCK-7",
   "HORIZONTAL SCAN=LINE-1 LINE-3 LINE-7 LINE-9",
   "HORIZONTAL=BAR ELLIPSIS TABULATION",
   "HORSE=FACE RACING",
   "HOT=BEVERAGE DOG PEPPER SPRINGS",
   "HOURGLASS WITH FLOWING=SAND",
   "HOUSE WITH=GARDEN",
   "HOUSE=BUILDING BUILDINGS",
   "HRYVNIA,I LOVE YOU HAND,IMPERIAL ARAMAIC SECTION,INDIAN RUPEE=SIGN",
   "HUGGING,HUSHED,KISSING,LAST QUARTER MOON WITH,LION,LOUDLY CRYING,LYING,MELTING=FACE",
   "HYPHEN WITH,LATIN CAPITAL LETTER U WITH MACRON AND=DIAERESIS",
   "ICE HOCKEY STICK AND=PUCK",
   "ICE=CREAM CUBE SKATE",
   "IDENTICAL WITH DOT,INVERTED LOW KAVYKA WITH KAVYKA,KAITHI NUMBER SIGN=ABOVE",
   "IDEOGRAPHIC ANNOTATION EARTH,IDEOGRAPHIC ANNOTATION FIRST=MARK",
   "IDEOGRAPHIC ANNOTATION FOUR,IDEOGRAPHIC ANNOTATION FOURTH=MARK",
   "IDEOGRAPHIC ANNOTATION HEAVEN,IDEOGRAPHIC ANNOTATION LINKING=MARK",
   "IDEOGRAPHIC ANNOTATION MAN,IDEOGRAPHIC ANNOTATION MIDDLE=MARK",
   "IDEOGRAPHIC ANNOTATION ONE,IDEOGRAPHIC ANNOTATION REVERSE=MARK",
   "IDEOGRAPHIC ANNOTATION SECOND,IDEOGRAPHIC ANNOTATION THIRD=MARK",
   "IDEOGRAPHIC ANNOTATION THREE,IDEOGRAPHIC ANNOTATION TOP=MARK",
   "IDEOGRAPHIC ANNOTATION TWO,IDEOGRAPHIC CLOSING,IDEOGRAPHIC DEPARTING TONE=MARK",
   "IDEOGRAPHIC DESCRIPTION CHARACTER ABOVE TO MIDDLE AND,KHAROSHTHI SIGN DOT=BELOW",
   "IDEOGRAPHIC DESCRIPTION CHARACTER ABOVE TO=BELOW",
   "IDEOGRAPHIC DESCRIPTION CHARACTER FULL=SURROUND",
   "IDEOGRAPHIC DESCRIPTION CHARACTER LEFT TO MIDDLE AND=RIGHT",
   "IDEOGRAPHIC DESCRIPTION CHARACTER LEFT TO=RIGHT",
   "IDEOGRAPHIC DESCRIPTION CHARACTER SURROUND FROM LOWER,MEASURED ANGLE OPENING=LEFT",
   "IDEOGRAPHIC DESCRIPTION CHARACTER SURROUND FROM UPPER=LEFT RIGHT",
   "IDEOGRAPHIC DESCRIPTION CHARACTER SURROUND FROM=ABOVE BELOW LEFT",
   "IDEOGRAPHIC DESCRIPTION CHARACTER=OVERLAID",
   "IDEOGRAPHIC ENTERING TONE,IDEOGRAPHIC ITERATION,IDEOGRAPHIC LEVEL TONE=MARK",
   "IDEOGRAPHIC NUMBER,NEGATIVE CIRCLED DIGIT=ZERO",
   "IDEOGRAPHIC RISING TONE,INDIC SIYAQ ALTERNATE LAKH,INDIC SIYAQ LAKH=MARK",
   "IDEOGRAPHIC TALLY MARK=FIVE FOUR ONE THREE TWO",
   "IDEOGRAPHIC TELEGRAPH LINE FEED SEPARATOR,INCREASE FONT SIZE,INSERTION=SYMBOL",
   "IDEOGRAPHIC TELEGRAPH SYMBOL FOR DAY=EIGHT EIGHTEEN ELEVEN FIFTEEN FIVE FOUR FOURTEEN NINE",
   "IDEOGRAPHIC TELEGRAPH SYMBOL FOR DAY=NINETEEN ONE SEVEN SEVENTEEN SIX SIXTEEN TEN THIRTEEN",
   "IDEOGRAPHIC TELEGRAPH SYMBOL FOR DAY=THIRTY THIRTY-ONE THREE TWELVE TWENTY TWENTY-EIGHT",
   "IDEOGRAPHIC TELEGRAPH SYMBOL FOR DAY=TWENTY-FIVE TWENTY-FOUR TWENTY-NINE TWENTY-ONE",
   "IDEOGRAPHIC TELEGRAPH SYMBOL FOR DAY=TWENTY-SEVEN TWENTY-SIX TWENTY-THREE TWENTY-TWO TWO",
   "IDEOGRAPHIC TELEGRAPH SYMBOL FOR HOUR=EIGHT EIGHTEEN ELEVEN FIFTEEN FIVE FOUR FOURTEEN NINE",
   "IDEOGRAPHIC TELEGRAPH SYMBOL FOR HOUR=NINETEEN ONE SEVEN SEVENTEEN SIX SIXTEEN TEN THIRTEEN",
   "IDEOGRAPHIC TELEGRAPH SYMBOL FOR HOUR=THREE TWELVE TWENTY TWENTY-FOUR TWENTY-ONE",
   "IDEOGRAPHIC TELEGRAPH SYMBOL FOR HOUR=TWENTY-THREE TWENTY-TWO TWO ZERO",
   "IDEOGRAPHIC TELEGRAPH SYMBOL FOR=APRIL AUGUST DECEMBER FEBRUARY JANUARY JULY JUNE MARCH MAY",
   "IDEOGRAPHIC TELEGRAPH SYMBOL FOR=NOVEMBER OCTOBER SEPTEMBER",
   "IDEOGRAPHIC=COMMA SPACE",
   "IMAGE OF OR APPROXIMATELY EQUAL,LARGER THAN OR EQUAL=TO",
   "IMPERIAL ARAMAIC NUMBER ONE,INDIC SIYAQ NUMBER EIGHT=HUNDRED THOUSAND",
   "IMPERIAL ARAMAIC NUMBER,PHOENICIAN NUMBER=ONE TEN THREE TWENTY TWO",
   "INBOX,OUTBOX=TRAY",
   "INCOMPLETE,TIE OVER=INFINITY",
   "INCREASES=AS",
   "INDEX POINTING AT THE=VIEWER",
   "INDIC SIYAQ FRACTION ONE=HALF QUARTER",
   "INDIC SIYAQ FRACTION THREE=QUARTERS",
   "INDIC SIYAQ NUMBER ALTERNATE TEN,INDIC SIYAQ NUMBER EIGHTY=THOUSAND",
   "INDIC SIYAQ NUMBER FIFTY,INDIC SIYAQ NUMBER FORTY=THOUSAND",
   "INDIC SIYAQ NUMBER FIVE,INDIC SIYAQ NUMBER FOUR,INDIC SIYAQ NUMBER NINE=HUNDRED THOUSAND",
   "INDIC SIYAQ NUMBER NINETY,INDIC SIYAQ NUMBER SEVENTY=THOUSAND",
   "INDIC SIYAQ NUMBER ONE,INDIC SIYAQ NUMBER SEVEN,INDIC SIYAQ NUMBER SIX=HUNDRED THOUSAND",
   "INDIC SIYAQ NUMBER PREFIXED,MENDE KIKAKUI DIGIT,PARENTHESIZED DIGIT=EIGHT FIVE FOUR NINE ONE",
   "INDIC SIYAQ NUMBER PREFIXED,MENDE KIKAKUI DIGIT,PARENTHESIZED DIGIT=SEVEN SIX THREE TWO",
   "INDIC SIYAQ NUMBER SIXTY,INDIC SIYAQ NUMBER TEN,INDIC SIYAQ NUMBER THIRTY=THOUSAND",
   "INDIC SIYAQ NUMBER THREE,INDIC SIYAQ NUMBER TWO=HUNDRED THOUSAND",
   "INDIC SIYAQ NUMBER TWENTY,MEROITIC CURSIVE NUMBER EIGHT HUNDRED=THOUSAND",
   "INDIC SIYAQ NUMBER=EIGHT EIGHTY FIFTY FIVE FORTY FOUR KAROR KARORAN LAKH LAKHAN NINE NINETY",
   "INDIC SIYAQ NUMBER=ONE SEVEN SEVENTY SIX SIXTY TEN THIRTY THREE TWENTY TWO",
   "INDIC SIYAQ RUPEE,INVERSE CHECK,INVERTED EXCLAMATION,INVERTED QUESTION=MARK",
   "INDIC SIYAQ=PLACEHOLDER",
   "INFINITY NEGATED WITH VERTICAL,KHAROSHTHI PUNCTUATION CRESCENT=BAR",
   "INFORMATION SEPARATOR,KHAROSHTHI DIGIT,MONGOLIAN FREE VARIATION SELECTOR=FOUR ONE THREE TWO",
   "INPUT SYMBOL FOR LATIN SMALL=LETTERS",
   "INPUT SYMBOL FOR LATIN,INPUT SYMBOL FOR LATIN CAPITAL=LETTERS",
   "INPUT SYMBOL FOR=NUMBERS SYMBOLS",
   "INSCRIPTIONAL PAHLAVI LETTER=ALEPH BETH DALETH GIMEL HE HETH KAPH LAMEDH MEM-QOPH NUN PE",
   "INSCRIPTIONAL PAHLAVI LETTER=SADHE SAMEKH SHIN TAW TETH WAW-AYIN-RESH YODH ZAYIN",
   "INSCRIPTIONAL PAHLAVI NUMBER ONE,INSCRIPTIONAL PARTHIAN NUMBER ONE=HUNDRED THOUSAND",
   "INTEGRAL AVERAGE WITH,MODIFIER LETTER DOT,MUSICAL SYMBOL DEGREE=SLASH",
   "INTEGRAL WITH TIMES,INTERLOCKED FEMALE AND MALE,INVERTED OHM=SIGN",
   "INTEGRAL WITH=INTERSECTION OVERBAR UNDERBAR UNION",
   "INTERLINEAR ANNOTATION=ANCHOR SEPARATOR TERMINATOR",
   "INTERSECTION ABOVE,INTERSECTION ABOVE BAR ABOVE,UNION BESIDE AND JOINED WITH=UNION",
   "INTERSECTION WITH LOGICAL,LOGICAL OR OVERLAPPING LOGICAL=AND",
   "INTERSECTION WITH=DOT OVERBAR",
   "INVERSE MEDIUM,LEFT HALF MEDIUM,LOWER HALF MEDIUM=SHADE",
   "INVERTED LOW=KAVYKA",
   "INVERTED=INTERROBANG PENTAGRAM UNDERTIE",
   "INVISIBLE=PLUS SEPARATOR TIMES",
   "IZAKAYA=LANTERN",
   "JAPANESE BANK,JAPANESE INDUSTRIAL STANDARD,KOREAN STANDARD,L B BAR=SYMBOL",
   "JAPANESE SYMBOL FOR=BEGINNER",
   "JAPANESE=CASTLE DOLLS GOBLIN OGRE",
   "JAVANESE CONSONANT SIGN=CAKRA KERET PENGKAL",
   "JAVANESE LEFT,JAVANESE RIGHT=RERENGGAN",
   "JAVANESE LETTER BA,JAVANESE LETTER CA,JAVANESE LETTER GA,JAVANESE LETTER NA=MURDA",
   "JAVANESE LETTER DDA,JAVANESE LETTER JA,JAVANESE LETTER TTA=MAHAPRANA",
   "JAVANESE LETTER I=KAWI",
   "JAVANESE LETTER KA=MURDA SASAK",
   "JAVANESE LETTER NGA LELET=RASWADI",
   "JAVANESE LETTER NGA=LELET",
   "JAVANESE LETTER NYA,JAVANESE LETTER TA=MURDA",
   "JAVANESE LETTER PA=CEREK MURDA",
   "JAVANESE LETTER RA=AGUNG",
   "JAVANESE LETTER SA=MAHAPRANA MURDA",
   "JAVANESE LETTER=A AI BA CA DA DDA E GA HA I II JA KA LA MA NA NGA NYA O PA RA SA TA TTA U WA",
   "JAVANESE LETTER=YA",
   "JAVANESE PADA TIRTA=TUMETES",
   "JAVANESE PADA=ADEG ANDAP ISEN-ISEN LINGSA LUHUR LUNGSI MADYA PANGKAT PISELEH WINDU",
   "JAVANESE SIGN CECAK=TELU",
   "JAVANESE SIGN=CECAK LAYAR PANYANGGA WIGNYAN",
   "JAVANESE TURNED PADA=PISELEH",
   "JAVANESE VOWEL SIGN DIRGA=MURE",
   "JAVANESE VOWEL SIGN SUKU=MENDUT",
   "JAVANESE VOWEL SIGN WULU=MELIK",
   "JAVANESE VOWEL SIGN=PEPET SUKU TALING TARUNG TOLONG WULU",
   "JAVANESE=PANGKON PANGRANGKEP",
   "KAITHI ABBREVIATION,KAITHI ENUMERATION,KAITHI NUMBER,KELVIN=SIGN",
   "KAITHI DOUBLE SECTION,KAITHI SECTION,KANNADA AI LENGTH,KANNADA LENGTH=MARK",
   "KAITHI LETTER=A AA AI AU BA BHA CA CHA DA DDA DDDHA DDHA DHA E GA GHA HA I II JA JHA KA KHA",
   "KAITHI LETTER=LA MA NA NGA NNA NYA O PA PHA RA RHA SA SHA SSA TA THA TTA TTHA U UU VA YA",
   "KAITHI SIGN=ANUSVARA CANDRABINDU NUKTA VIRAMA VISARGA",
   "KAITHI VOWEL SIGN VOCALIC,KHAROSHTHI VOWEL SIGN VOCALIC=R",
   "KANGXI RADICAL DO=NOT",
   "KANGXI RADICAL DOTTED=CLIFF TENT",
   "KANGXI RADICAL GO=SLOWLY",
   "KANGXI RADICAL HIDING,KANGXI RADICAL WALK=ENCLOSURE",
   "KANGXI RADICAL LONG=STRIDE",
   "KANGXI RADICAL RIGHT OPEN,SHOULDERED OPEN,TAKEOUT,UP ARROWHEAD IN A RECTANGLE=BOX",
   "KANGXI RADICAL SACRIFICIAL,LINEAR B IDEOGRAM B131=WINE",
   "KANGXI RADICAL SHORT TAILED=BIRD",
   "KANGXI RADICAL SHORT,SPOOL OF=THREAD",
   "KANGXI RADICAL TWO,MAN AND WOMAN HOLDING,PERSON WITH FOLDED,TWO MEN HOLDING=HANDS",
   "KANGXI RADICAL=AGAIN AND ARRIVE ARROW AXE BADGER BAMBOO BEAN BIG BIRD BITTER BLACK BLOOD",
   "KANGXI RADICAL=BLUE BOAT BODY BONE BOW BRANCH BRISTLE BRUSH CART CAULDRON CAVE CHILD CITY",
   "KANGXI RADICAL=CLAN CLAW CLIFF CLOTHES COLOR COMPARE CORPSE COVER COW DEATH DEER DIPPER DISH",
   "KANGXI RADICAL=DISTINGUISH DIVINATION DOG DOOR DOT DRAGON DRUM DRY EAR EARTH EAT EIGHT",
   "KANGXI RADICAL=EMBROIDERY ENCLOSURE ENTER EVEN EVENING EYE FACE FANG FATHER FEATHER FIELD",
   "KANGXI RADICAL=FIGHT FIRE FISH FLUTE FLY FOOT FRAGRANT FROG FUR GATE GHOST GO GOLD GRAIN",
   "KANGXI RADICAL=GRASS HAIR HALBERD HAND HEAD HEART HEMP HOOK HORN HORSE ICE INCH INSECT JADE",
   "KANGXI RADICAL=JAR KNIFE LACK LAME LEAF LEATHER LEEK LEGS LID LIFE LINE LONG MAN MEAT MELON",
   "KANGXI RADICAL=MILLET MINISTER MOON MORNING MORTAR MOUND MOUNTAIN MOUTH NET NOSE NOT OLD ONE",
   "KANGXI RADICAL=ONESELF OPPOSE PIG PLOW POWER PRIVATE PROFOUND RAIN RAP RAT RED RICE RIVER",
   "KANGXI RADICAL=ROOF RUN SALT SAY SCHOLAR SCRIPT SEAL SECOND SEE SELF SHEEP SHELL SHOOT",
   "KANGXI RADICAL=SICKNESS SILK SKIN SLASH SLAVE SLICE SMALL SNOUT SOUND SPEAR SPEECH SPIRIT",
   "KANGXI RADICAL=SPOON SPROUT SQUARE STAND STEAM STEP STONE STOP STOPPING SUN SWEET TABLE TALL",
   "KANGXI RADICAL=TEN TIGER TILE TONGUE TOOTH TRACK TREE TRIPOD TURBAN TURTLE TWO USE VALLEY",
   "KANGXI RADICAL=VILLAGE WALK WATER WEAPON WEST WHEAT WHITE WIND WINE WOMAN WORK WRAP WRONG",
   "KANGXI RADICAL=YELLOW",
   "KANNADA DIGIT,KAYAH LI DIGIT,KHMER DIGIT,KHUDAWADI DIGIT,LAO DIGIT=EIGHT FIVE FOUR NINE ONE",
   "KANNADA DIGIT,KAYAH LI DIGIT,KHMER DIGIT,KHUDAWADI DIGIT,LAO DIGIT=SEVEN SIX THREE TWO ZERO",
   "KANNADA LETTER NAKAARA,TELUGU LETTER NAKAARA=POLLU",
   "KANNADA LETTER=A AA AI AU BA BHA CA CHA DA DDA DDHA DHA E EE FA GA GHA HA I II JA JHA KA KHA",
   "KANNADA LETTER=LA LLA LLLA MA NA NGA NNA NYA O OO PA PHA RA RRA SA SHA SSA TA THA TTA TTHA U",
   "KANNADA LETTER=UU VA YA",
   "KANNADA SIGN,SHARADA SIGN=ANUSVARA AVAGRAHA CANDRABINDU JIHVAMULIYA NUKTA SIDDHAM",
   "KANNADA SIGN,SHARADA SIGN=UPADHMANIYA VIRAMA VISARGA",
   "KANNADA VOWEL SIGN,MALAYALAM VOWEL SIGN,SAURASHTRA VOWEL SIGN,TAMIL VOWEL SIGN=AA AI AU E EE",
   "KANNADA VOWEL SIGN,MALAYALAM VOWEL SIGN,SAURASHTRA VOWEL SIGN,TAMIL VOWEL SIGN=I II O OO U",
   "KANNADA VOWEL SIGN,MALAYALAM VOWEL SIGN,SAURASHTRA VOWEL SIGN,TAMIL VOWEL SIGN=UU",
   "KATAKANA DIGRAPH=KOTO",
   "KATAKANA ITERATION,KATAKANA VOICED ITERATION,KATAKANA-HIRAGANA PROLONGED SOUND=MARK",
   "KATAKANA LETTER ARCHAIC=E WU YE YI",
   "KATAKANA LETTER MINNAN NASALIZED=TONE-1 TONE-2 TONE-3 TONE-4 TONE-5 TONE-7 TONE-8",
   "KATAKANA LETTER MINNAN=TONE-2 TONE-3 TONE-4 TONE-5 TONE-7 TONE-8",
   "KATAKANA LETTER SMALL=A E HA HE HI HO HU I KA KE KU MU N NU O RA RE RI RO RU SI SU TO TU U",
   "KATAKANA LETTER SMALL=WA WE WI WO YA YO YU",
   "KATAKANA LETTER=A BA BE BI BO BU DA DE DI DO DU E GA GE GI GO GU HA HE HI HO HU I KA KE KI",
   "KATAKANA LETTER=KO KU MA ME MI MO MU N NA NE NI NO NU O PA PE PI PO PU RA RE RI RO RU SA SE",
   "KATAKANA LETTER=SI SO SU TA TE TI TO TU U VA VE VI VO VU WA WE WI WO YA YO YU ZA ZE ZI ZO ZU",
   "KATAKANA-HIRAGANA SEMI-VOICED SOUND,KATAKANA-HIRAGANA VOICED SOUND=MARK",
   "KAYAH LI LETTER=A BA CA DA GA HA HTA I KA KHA LA MA NA NGA NYA OE OO PA PHA RA SA SHA TA THA",
   "KAYAH LI LETTER=VA WA YA ZA",
   "KAYAH LI SIGN=CWI SHYA",
   "KAYAH LI TONE CALYA=PLOPHU",
   "KAYAH LI TONE=CALYA PLOPHU",
   "KAYAH LI VOWEL=E EE O U UE",
   "KEYBOARD AND,ONE BUTTON,THREE BUTTON,TWO BUTTON=MOUSE",
   "KHAROSHTHI LETTER=A BA BHA CA CHA DA DDA DDHA DHA GA GHA HA JA KA KHA KKA LA MA NA NNA NYA",
   "KHAROSHTHI LETTER=PA PHA RA SA SHA SSA TA THA TTA TTHA TTTA TTTHA VA VHA YA ZA",
   "KHAROSHTHI NUMBER ONE,MALAYALAM NUMBER ONE,MEROITIC CURSIVE NUMBER EIGHT=HUNDRED THOUSAND",
   "KHAROSHTHI PUNCTUATION=CIRCLE DANDA DOT LINES LOTUS MANGALAM",
   "KHAROSHTHI SIGN BAR,LATIN CAPITAL LETTER A WITH BREVE AND HOOK=ABOVE",
   "KHAROSHTHI SIGN DOUBLE RING,LATIN CAPITAL LETTER A WITH BREVE AND DOT=BELOW",
   "KHAROSHTHI SIGN=ANUSVARA CAUDA VISARGA",
   "KHAROSHTHI VOWEL LENGTH,KHOJKI DOUBLE SECTION,KHOJKI SECTION,KISS=MARK",
   "KHAROSHTHI VOWEL SIGN,MAKASAR VOWEL SIGN=E I O U",
   "KHAROSHTHI,LAO SIGN PALI,MALAYALAM SIGN CIRCULAR,MALAYALAM SIGN VERTICAL BAR=VIRAMA",
   "KHMER CURRENCY SYMBOL=RIEL",
   "KHMER INDEPENDENT VOWEL=LY LYY QAA QAI QAQ QAU QE QI QII QU QUK QUU QUUV RY RYY",
   "KHMER LETTER=BA CA CHA CHO CO DA DO HA KA KHA KHO KO LA LO MO NGO NNO NO NYO PHA PHO PO QA",
   "KHMER LETTER=RO SA SHA SSO TA THA THO TO TTHA TTHO VO YO",
   "KHMER SIGN CAMNUC PII=KUUH",
   "KHMER SIGN LEK,MENDE KIKAKUI SYLLABLE M104=TOO",
   "KHMER SIGN PHNAEK,MENDE KIKAKUI SYLLABLE M154=MUAN",
   "KHMER SIGN SAMYOK=SANNYA",
   "KHMER SIGN=AHSDA ATTHACAN AVAKRAHASANYA BANTOC BARIYOOSAN BATHAMASAT BEYYAL COENG KAKABAT",
   "KHMER SIGN=KHAN KOOMUUT MUUSIKATOAN NIKAHIT REAHMUK ROBAT TOANDAKHIAT TRIISAP VIRIAM",
   "KHMER SIGN=YUUKALEAPINTU",
   "KHMER SYMBOL BEI,KHMER SYMBOL BUON,KHMER SYMBOL DAP,KHMER SYMBOL DAP-BEI=KOET ROC",
   "KHMER SYMBOL DAP-BUON,KHMER SYMBOL DAP-MUOY,KHMER SYMBOL DAP-PII=KOET ROC",
   "KHMER SYMBOL DAP-PRAM,KHMER SYMBOL MUOY,KHMER SYMBOL PII,KHMER SYMBOL PRAM=KOET ROC",
   "KHMER SYMBOL LEK ATTAK=BEI BUON MUOY PII PRAM PRAM-BEI PRAM-BUON PRAM-MUOY PRAM-PII SON",
   "KHMER SYMBOL PRAM-BEI,KHMER SYMBOL PRAM-BUON,KHMER SYMBOL PRAM-MUOY=KOET ROC",
   "KHMER SYMBOL PRAM-PII=KOET ROC",
   "KHMER SYMBOL=PATHAMASAT TUTEYASAT",
   "KHMER VOWEL INHERENT=AA AQ",
   "KHMER VOWEL SIGN=AA AE AI AU E I IE II OE OO U UA UU Y YA YY",
   "KHOJKI ABBREVIATION,KIP,LARI,LEFT-FACING ARMENIAN ETERNITY,LEFT-FACING SVASTI=SIGN",
   "KHOJKI DOUBLE,MODI,MODI DOUBLE,MRO,MRO DOUBLE,SAURASHTRA,SAURASHTRA DOUBLE=DANDA",
   "KHOJKI LETTER=A AA AI AU BA BBA BHA CA CHA DA DDA DDDA DDHA DHA E GA GGA GHA HA I JA JJA KA",
   "KHOJKI LETTER=KHA LA LLA MA NA NGA NNA NYA O PA PHA RA SA TA THA TTA TTHA U VA YA",
   "KHOJKI SIGN=ANUSVARA NUKTA SHADDA SUKUN VIRAMA",
   "KHOJKI VOWEL SIGN=AA AI AU E I II O U",
   "KHUDAWADI LETTER=A AA AI AU BA BBA BHA CA CHA DA DDA DDDA DDHA DHA E GA GGA GHA HA I II JA",
   "KHUDAWADI LETTER=JHA JJA KA KHA LA MA NA NGA NNA NYA O PA PHA RA RRA SA SHA TA THA TTA TTHA",
   "KHUDAWADI LETTER=U UU VA YA",
   "KHUDAWADI SIGN=ANUSVARA NUKTA VIRAMA",
   "KISSING CAT FACE WITH CLOSED,KISSING FACE WITH CLOSED=EYES",
   "KISSING FACE WITH SMILING,SMILING CAT FACE WITH HEART-SHAPED=EYES"]

def rowsFromL : List String :=
  ["LAB=COAT",
   "LADY=BEETLE",
   "LANGUAGE=TAG",
   "LAO CANCELLATION,LEFT DOUBLE QUOTATION,LEFT SINGLE QUOTATION=MARK",
   "LAO HO=MO NO",
   "LAO LETTER FO=FAY FON SUNG TAM",
   "LAO LETTER HO,LAO LETTER KHO,LAO LETTER PHO,LAO LETTER SO,LAO LETTER THO=SUNG TAM",
   "LAO LETTER KHMU=GO NYO",
   "LAO LETTER LO=LING LOOT",
   "LAO LETTER PALI=BHA CHA DDA DDHA DHA GHA JHA LLA NNA NYA TTA TTHA",
   "LAO LETTER SANSKRIT=SHA SSA",
   "LAO LETTER=BO CO DO KO LO MO NGO NO NYO O PO RO TO WO YO",
   "LAO SEMIVOWEL SIGN=LO NYO",
   "LAO TONE MAI=CATAWA EK THO TI",
   "LAO VOWEL SIGN MAI=KAN KON",
   "LAO VOWEL SIGN=A AA AI AM AY E EI I II O U UU Y YY",
   "LAO=ELLIPSIS NIGGAHITA",
   "LARGE ONE DOT OVER TWO DOTS,LARGE ONE RING OVER TWO RINGS=PUNCTUATION",
   "LARGE TRIPLE VERTICAL BAR,LEFTWARDS ARROW ABOVE REVERSE TILDE=OPERATOR",
   "LARGE TWO DOTS OVER ONE DOT,LARGE TWO RINGS OVER ONE RING,MANDAIC=PUNCTUATION",
   "LARGER,SMALLER=THAN",
   "LAST QUARTER MOON,LINK,LOW BRIGHTNESS,MARRIAGE,MASK WORK=SYMBOL",
   "LATIN CAPITAL LETTER A WITH BREVE AND=ACUTE GRAVE TILDE",
   "LATIN CAPITAL LETTER A WITH CIRCUMFLEX AND DOT=BELOW",
   "LATIN CAPITAL LETTER A WITH CIRCUMFLEX AND HOOK=ABOVE",
   "LATIN CAPITAL LETTER A WITH CIRCUMFLEX AND=ACUTE GRAVE TILDE",
   "LATIN CAPITAL LETTER A WITH DOT ABOVE AND=MACRON",
   "LATIN CAPITAL LETTER A WITH DOT,LATIN CAPITAL LETTER A WITH RING=ABOVE BELOW",
   "LATIN CAPITAL LETTER A WITH DOUBLE,LATIN CAPITAL LETTER E WITH DOUBLE=GRAVE",
   "LATIN CAPITAL LETTER A WITH HOOK,LATIN CAPITAL LETTER C WITH DOT=ABOVE",
   "LATIN CAPITAL LETTER A WITH INVERTED,LATIN CAPITAL LETTER E WITH CEDILLA AND=BREVE",
   "LATIN CAPITAL LETTER A WITH,LATIN CAPITAL LETTER I WITH=ACUTE BREVE CARON CIRCUMFLEX",
   "LATIN CAPITAL LETTER A WITH,LATIN CAPITAL LETTER I WITH=DIAERESIS GRAVE MACRON OGONEK STROKE",
   "LATIN CAPITAL LETTER A WITH,LATIN CAPITAL LETTER I WITH=TILDE",
   "LATIN CAPITAL LETTER AE WITH,LATIN SMALL LETTER AE WITH=ACUTE MACRON",
   "LATIN CAPITAL LETTER ANGLICANA,LATIN SMALL LETTER ANGLICANA,LINEAR A SIGN A710=W",
   "LATIN CAPITAL LETTER AV WITH HORIZONTAL,LATIN CAPITAL LETTER L WITH DOUBLE=BAR",
   "LATIN CAPITAL LETTER B WITH DOT,LATIN CAPITAL LETTER D WITH DOT=ABOVE BELOW",
   "LATIN CAPITAL LETTER B WITH LINE,LATIN CAPITAL LETTER D WITH CIRCUMFLEX=BELOW",
   "LATIN CAPITAL LETTER B WITH,LATIN SMALL LETTER B WITH=FLOURISH HOOK STROKE TOPBAR",
   "LATIN CAPITAL LETTER BROKEN,LATIN SMALL LETTER BROKEN,LINEAR A SIGN A709=L",
   "LATIN CAPITAL LETTER C WITH CEDILLA AND=ACUTE",
   "LATIN CAPITAL LETTER C WITH PALATAL,LATIN CAPITAL LETTER N WITH LEFT=HOOK",
   "LATIN CAPITAL LETTER C WITH=ACUTE BAR CARON CEDILLA CIRCUMFLEX HOOK STROKE",
   "LATIN CAPITAL LETTER CLOSED INSULAR,LATIN CAPITAL LETTER SCRIPT=G",
   "LATIN CAPITAL LETTER CUATRILLO WITH,LATIN SMALL LETTER CUATRILLO WITH=COMMA",
   "LATIN CAPITAL LETTER D WITH LINE,LATIN CAPITAL LETTER E WITH CIRCUMFLEX=BELOW",
   "LATIN CAPITAL LETTER D WITH SMALL LETTER Z WITH,LATIN CAPITAL LETTER DZ WITH=CARON",
   "LATIN CAPITAL LETTER D WITH=CARON CEDILLA HOOK STROKE TOPBAR",
   "LATIN CAPITAL LETTER E WITH CIRCUMFLEX AND DOT=BELOW",
   "LATIN CAPITAL LETTER E WITH CIRCUMFLEX AND HOOK=ABOVE",
   "LATIN CAPITAL LETTER E WITH CIRCUMFLEX AND=ACUTE GRAVE TILDE",
   "LATIN CAPITAL LETTER E WITH DOT,LATIN CAPITAL LETTER H WITH DOT=ABOVE BELOW",
   "LATIN CAPITAL LETTER E WITH HOOK,LATIN CAPITAL LETTER F WITH DOT=ABOVE",
   "LATIN CAPITAL LETTER E WITH INVERTED,LATIN CAPITAL LETTER I WITH INVERTED=BREVE",
   "LATIN CAPITAL LETTER E WITH MACRON AND,LATIN CAPITAL LETTER O WITH DOUBLE=ACUTE GRAVE",
   "LATIN CAPITAL LETTER E WITH TILDE,LATIN CAPITAL LETTER H WITH BREVE=BELOW",
   "LATIN CAPITAL LETTER E WITH=ACUTE BREVE CARON CEDILLA CIRCUMFLEX DIAERESIS GRAVE MACRON",
   "LATIN CAPITAL LETTER E WITH=OGONEK STROKE TILDE",
   "LATIN CAPITAL LETTER EGYPTOLOGICAL,LATIN SMALL LETTER EGYPTOLOGICAL=AIN ALEF",
   "LATIN CAPITAL LETTER EZH WITH,LATIN SMALL LETTER DZ WITH=CARON",
   "LATIN CAPITAL LETTER F WITH,LATIN SMALL LETTER F WITH=HOOK STROKE",
   "LATIN CAPITAL LETTER G WITH DOT,LATIN CAPITAL LETTER I WITH HOOK=ABOVE",
   "LATIN CAPITAL LETTER G WITH OBLIQUE,LATIN CAPITAL LETTER K WITH DIAGONAL=STROKE",
   "LATIN CAPITAL LETTER G WITH,LATIN SMALL LETTER G WITH=ACUTE BREVE CARON CEDILLA CIRCUMFLEX",
   "LATIN CAPITAL LETTER G WITH,LATIN SMALL LETTER G WITH=HOOK MACRON STROKE",
   "LATIN CAPITAL LETTER GLOTTAL,LATIN SMALL LETTER GLOTTAL=A I STOP U",
   "LATIN CAPITAL LETTER H WITH,LATIN SMALL LETTER H WITH=CARON CEDILLA CIRCUMFLEX DESCENDER",
   "LATIN CAPITAL LETTER H WITH,LATIN SMALL LETTER H WITH=DIAERESIS HOOK STROKE",
   "LATIN CAPITAL LETTER I WITH DIAERESIS AND=ACUTE",
   "LATIN CAPITAL LETTER I WITH DOT,LATIN CAPITAL LETTER M WITH DOT=ABOVE BELOW",
   "LATIN CAPITAL LETTER I WITH DOUBLE,LATIN CAPITAL LETTER R WITH DOUBLE=GRAVE",
   "LATIN CAPITAL LETTER I WITH TILDE,LATIN CAPITAL LETTER K WITH DOT=BELOW",
   "LATIN CAPITAL LETTER INSULAR,LATIN SMALL LETTER INSULAR=D F G R S T",
   "LATIN CAPITAL LETTER J WITH=CIRCUMFLEX CROSSED-TAIL STROKE",
   "LATIN CAPITAL LETTER K WITH LINE,LATIN CAPITAL LETTER L WITH CIRCUMFLEX=BELOW",
   "LATIN CAPITAL LETTER K WITH OBLIQUE=STROKE",
   "LATIN CAPITAL LETTER K WITH STROKE AND DIAGONAL=STROKE",
   "LATIN CAPITAL LETTER K WITH,LATIN SMALL LETTER K WITH=ACUTE CARON CEDILLA DESCENDER HOOK",
   "LATIN CAPITAL LETTER K WITH,LATIN SMALL LETTER K WITH=STROKE",
   "LATIN CAPITAL LETTER L WITH DOT BELOW AND=MACRON",
   "LATIN CAPITAL LETTER L WITH DOT,LATIN CAPITAL LETTER L WITH LINE=BELOW",
   "LATIN CAPITAL LETTER L WITH HIGH,LATIN CAPITAL LETTER N WITH OBLIQUE=STROKE",
   "LATIN CAPITAL LETTER L WITH MIDDLE=DOT TILDE",
   "LATIN CAPITAL LETTER L WITH SMALL LETTER,LATIN CAPITAL LETTER N WITH SMALL LETTER=J",
   "LATIN CAPITAL LETTER L WITH=ACUTE BAR BELT CARON CEDILLA STROKE",
   "LATIN CAPITAL LETTER M WITH=ACUTE HOOK",
   "LATIN CAPITAL LETTER MIDDLE SCOTS,LATIN CAPITAL LETTER SHARP=S",
   "LATIN CAPITAL LETTER MIDDLE-WELSH,LATIN SMALL LETTER MIDDLE-WELSH=LL V",
   "LATIN CAPITAL LETTER N WITH CIRCUMFLEX,LATIN CAPITAL LETTER N WITH LINE=BELOW",
   "LATIN CAPITAL LETTER N WITH DOT,LATIN CAPITAL LETTER O WITH DOT=ABOVE BELOW",
   "LATIN CAPITAL LETTER N WITH LONG RIGHT,LATIN LETTER SMALL CAPITAL R WITH RIGHT=LEG",
   "LATIN CAPITAL LETTER N WITH=ACUTE CARON CEDILLA DESCENDER GRAVE TILDE",
   "LATIN CAPITAL LETTER O WITH CIRCUMFLEX AND DOT=BELOW",
   "LATIN CAPITAL LETTER O WITH CIRCUMFLEX AND HOOK=ABOVE",
   "LATIN CAPITAL LETTER O WITH CIRCUMFLEX AND=ACUTE GRAVE TILDE",
   "LATIN CAPITAL LETTER O WITH DIAERESIS AND=MACRON",
   "LATIN CAPITAL LETTER O WITH DOT ABOVE AND=MACRON",
   "LATIN CAPITAL LETTER O WITH HOOK,LATIN CAPITAL LETTER O WITH HORN AND HOOK=ABOVE",
   "LATIN CAPITAL LETTER O WITH HORN AND DOT,LATIN CAPITAL LETTER R WITH LINE=BELOW",
   "LATIN CAPITAL LETTER O WITH HORN AND,LATIN CAPITAL LETTER U WITH HORN AND=ACUTE GRAVE TILDE",
   "LATIN CAPITAL LETTER O WITH INVERTED,LATIN CAPITAL LETTER R WITH INVERTED=BREVE",
   "LATIN CAPITAL LETTER O WITH LONG STROKE=OVERLAY",
   "LATIN CAPITAL LETTER O WITH MACRON AND,LATIN CAPITAL LETTER U WITH DOUBLE=ACUTE GRAVE",
   "LATIN CAPITAL LETTER O WITH MIDDLE,LATIN SMALL LETTER B WITH MIDDLE=TILDE",
   "LATIN CAPITAL LETTER O WITH OGONEK AND=MACRON",
   "LATIN CAPITAL LETTER O WITH STROKE AND,LATIN CAPITAL LETTER U WITH TILDE AND=ACUTE",
   "LATIN CAPITAL LETTER O WITH TILDE AND,LATIN SMALL LETTER O WITH TILDE AND=ACUTE DIAERESIS",
   "LATIN CAPITAL LETTER O WITH TILDE AND,LATIN SMALL LETTER O WITH TILDE AND=MACRON",
   "LATIN CAPITAL LETTER O WITH,LATIN SMALL LETTER O WITH=ACUTE BREVE CARON CIRCUMFLEX DIAERESIS",
   "LATIN CAPITAL LETTER O WITH,LATIN SMALL LETTER O WITH=GRAVE HORN LOOP MACRON OGONEK STROKE",
   "LATIN CAPITAL LETTER O WITH,LATIN SMALL LETTER O WITH=TILDE",
   "LATIN CAPITAL LETTER OLD POLISH,LATIN LETTER SMALL CAPITAL OPEN=O",
   "LATIN CAPITAL LETTER P WITH DOT,LATIN CAPITAL LETTER S WITH ACUTE AND DOT=ABOVE",
   "LATIN CAPITAL LETTER P WITH,LATIN SMALL LETTER P WITH=ACUTE FLOURISH HOOK STROKE",
   "LATIN CAPITAL LETTER Q WITH DIAGONAL,LATIN CAPITAL LETTER R WITH OBLIQUE=STROKE",
   "LATIN CAPITAL LETTER Q WITH STROKE THROUGH=DESCENDER",
   "LATIN CAPITAL LETTER R WITH DOT BELOW AND=MACRON",
   "LATIN CAPITAL LETTER R WITH DOT,LATIN CAPITAL LETTER S WITH DOT=ABOVE BELOW",
   "LATIN CAPITAL LETTER R WITH=ACUTE CARON CEDILLA STROKE TAIL",
   "LATIN CAPITAL LETTER R,LATIN CAPITAL LETTER RUM,LATIN SMALL LETTER R=ROTUNDA",
   "LATIN CAPITAL LETTER REVERSED C WITH,LATIN LETTER SINOLOGICAL=DOT",
   "LATIN CAPITAL LETTER REVERSED HALF,LATIN SMALL LETTER HALF=H",
   "LATIN CAPITAL LETTER REVERSED OPEN,LATIN SMALL LETTER CLOSED OPEN=E",
   "LATIN CAPITAL LETTER S WITH CARON AND DOT=ABOVE",
   "LATIN CAPITAL LETTER S WITH COMMA,LATIN CAPITAL LETTER T WITH CIRCUMFLEX=BELOW",
   "LATIN CAPITAL LETTER S WITH DOT BELOW AND DOT=ABOVE",
   "LATIN CAPITAL LETTER S WITH OBLIQUE,LATIN CAPITAL LETTER T WITH DIAGONAL=STROKE",
   "LATIN CAPITAL LETTER S WITH SHORT STROKE=OVERLAY",
   "LATIN CAPITAL LETTER S WITH SWASH,LATIN CAPITAL LETTER SMALL Q WITH HOOK=TAIL",
   "LATIN CAPITAL LETTER S WITH=ACUTE CARON CEDILLA CIRCUMFLEX HOOK",
   "LATIN CAPITAL LETTER SIGMOID,LATIN SMALL LETTER L WITH INVERTED LAZY=S",
   "LATIN CAPITAL LETTER SMALL CAPITAL,LATIN EPIGRAPHIC LETTER SIDEWAYS=I",
   "LATIN CAPITAL LETTER T WITH COMMA,LATIN CAPITAL LETTER T WITH LINE=BELOW",
   "LATIN CAPITAL LETTER T WITH DOT,LATIN CAPITAL LETTER W WITH DOT=ABOVE BELOW",
   "LATIN CAPITAL LETTER T WITH RETROFLEX,LATIN CAPITAL LETTER Z WITH PALATAL=HOOK",
   "LATIN CAPITAL LETTER T WITH=CARON CEDILLA HOOK STROKE",
   "LATIN CAPITAL LETTER THORN WITH STROKE THROUGH=DESCENDER",
   "LATIN CAPITAL LETTER THORN WITH,LATIN CAPITAL LETTER V WITH DIAGONAL=STROKE",
   "LATIN CAPITAL LETTER TONE,LATIN SMALL LETTER TONE=FIVE SIX TWO",
   "LATIN CAPITAL LETTER TURNED INSULAR,LATIN SMALL LETTER CLOSED INSULAR=G",
   "LATIN CAPITAL LETTER TURNED=A ALPHA H K L M T V",
   "LATIN CAPITAL LETTER U WITH CIRCUMFLEX,LATIN CAPITAL LETTER U WITH DIAERESIS=BELOW",
   "LATIN CAPITAL LETTER U WITH DIAERESIS AND=ACUTE CARON GRAVE MACRON",
   "LATIN CAPITAL LETTER U WITH DOT,LATIN CAPITAL LETTER U WITH HORN AND DOT=BELOW",
   "LATIN CAPITAL LETTER U WITH HOOK,LATIN CAPITAL LETTER U WITH HORN AND HOOK=ABOVE",
   "LATIN CAPITAL LETTER U WITH INVERTED,LATIN SMALL LETTER A WITH INVERTED=BREVE",
   "LATIN CAPITAL LETTER U WITH RING,LATIN CAPITAL LETTER X WITH DOT=ABOVE",
   "LATIN CAPITAL LETTER U WITH TILDE,LATIN CAPITAL LETTER V WITH DOT=BELOW",
   "LATIN CAPITAL LETTER U WITH,LATIN SMALL LETTER U WITH=ACUTE BREVE CARON CIRCUMFLEX DIAERESIS",
   "LATIN CAPITAL LETTER U WITH,LATIN SMALL LETTER U WITH=GRAVE HORN MACRON OGONEK STROKE TILDE",
   "LATIN CAPITAL LETTER U,LATIN SMALL LETTER AV WITH HORIZONTAL=BAR",
   "LATIN CAPITAL LETTER V WITH=HOOK TILDE",
   "LATIN CAPITAL LETTER VISIGOTHIC,LATIN SMALL LETTER VISIGOTHIC=Z",
   "LATIN CAPITAL LETTER VOLAPUK,LATIN SMALL LETTER VOLAPUK=AE OE UE",
   "LATIN CAPITAL LETTER W WITH,LATIN SMALL LETTER W WITH=ACUTE CIRCUMFLEX DIAERESIS GRAVE HOOK",
   "LATIN CAPITAL LETTER X WITH,LATIN SMALL LETTER U WITH MACRON AND=DIAERESIS",
   "LATIN CAPITAL LETTER Y WITH DOT,LATIN CAPITAL LETTER Z WITH DOT=ABOVE BELOW",
   "LATIN CAPITAL LETTER Y WITH HOOK,LATIN SMALL LETTER A WITH BREVE AND HOOK=ABOVE",
   "LATIN CAPITAL LETTER Y WITH,LATIN SMALL LETTER Y WITH=ACUTE CIRCUMFLEX DIAERESIS GRAVE HOOK",
   "LATIN CAPITAL LETTER Y WITH,LATIN SMALL LETTER Y WITH=LOOP MACRON STROKE TILDE",
   "LATIN CAPITAL LETTER Z WITH LINE,LATIN SMALL LETTER A WITH BREVE AND DOT=BELOW",
   "LATIN CAPITAL LETTER Z WITH SWASH,LATIN SMALL LETTER D WITH HOOK AND=TAIL",
   "LATIN CAPITAL LETTER Z WITH=ACUTE CARON CIRCUMFLEX DESCENDER HOOK STROKE",
   "LATIN CAPITAL LETTER=A AA AE ALPHA AO AU AV AY B BETA C CHI CON CUATRILLO D DZ E ENG ESH ET",
   "LATIN CAPITAL LETTER=ETH EZH F G GAMMA GHA H HENG HWAIR I IOTA IS J K L LJ M N NJ O OI OMEGA",
   "LATIN CAPITAL LETTER=OO OU P Q R S SALTILLO SCHWA T THORN TRESILLO TZ U UPSILON V VEND VY W",
   "LATIN CAPITAL LETTER=WYNN X Y YOGH Z",
   "LATIN CAPITAL LIGATURE=IJ OE",
   "LATIN EPIGRAPHIC LETTER I=LONGA",
   "LATIN EPIGRAPHIC LETTER INVERTED,LATIN SMALL LETTER SIDEWAYS TURNED=M",
   "LATIN EPIGRAPHIC LETTER REVERSED=F P",
   "LATIN LETTER ALVEOLAR,LATIN LETTER DENTAL,LATIN LETTER LATERAL=CLICK",
   "LATIN LETTER BIDENTAL=PERCUSSIVE",
   "LATIN LETTER BILABIAL=CLICK PERCUSSIVE",
   "LATIN LETTER GLOTTAL STOP WITH,LATIN LETTER REVERSED GLOTTAL STOP WITH=STROKE",
   "LATIN LETTER INVERTED GLOTTAL STOP WITH=CURL STROKE",
   "LATIN LETTER INVERTED GLOTTAL,LISU PUNCTUATION FULL,MEDEFAIDRIN FULL=STOP",
   "LATIN LETTER PHARYNGEAL VOICED=FRICATIVE",
   "LATIN LETTER RETROFLEX CLICK WITH RETROFLEX,LATIN LETTER SMALL CAPITAL G WITH=HOOK",
   "LATIN LETTER RETROFLEX,MODIFIER LETTER ALVEOLAR,MODIFIER LETTER BILABIAL=CLICK",
   "LATIN LETTER SMALL CAPITAL INVERTED,LATIN SMALL LETTER STIRRUP=R",
   "LATIN LETTER SMALL CAPITAL L WITH=BELT STROKE",
   "LATIN LETTER SMALL CAPITAL REVERSED=N R",
   "LATIN LETTER SMALL CAPITAL TURNED=E G K M R",
   "LATIN LETTER SMALL CAPITAL=A AE B C D E ETH EZH F G H I J K L M N O OE OU P Q R RUM S T U V",
   "LATIN LETTER SMALL CAPITAL=W Y Z",
   "LATIN LETTER STRETCHED C WITH,LATIN SMALL LETTER DZ DIGRAPH WITH=CURL",
   "LATIN LETTER STRETCHED=C",
   "LATIN LETTER TWO WITH,LATIN SMALL CAPITAL LETTER I WITH=STROKE",
   "LATIN LETTER VOICED LARYNGEAL=SPIRANT",
   "LATIN LETTER=AIN WYNN YR",
   "LATIN SMALL CAPITAL LETTER U WITH,LATIN SMALL LETTER BLACKLETTER O WITH=STROKE",
   "LATIN SMALL LETTER A WITH BREVE AND,LATIN SMALL LETTER A WITH CIRCUMFLEX AND=ACUTE GRAVE",
   "LATIN SMALL LETTER A WITH BREVE AND,LATIN SMALL LETTER A WITH CIRCUMFLEX AND=TILDE",
   "LATIN SMALL LETTER A WITH CIRCUMFLEX AND DOT,LATIN SMALL LETTER B WITH LINE=BELOW",
   "LATIN SMALL LETTER A WITH CIRCUMFLEX AND HOOK,LATIN SMALL LETTER A WITH HOOK=ABOVE",
   "LATIN SMALL LETTER A WITH DIAERESIS AND=MACRON",
   "LATIN SMALL LETTER A WITH DOT ABOVE AND=MACRON",
   "LATIN SMALL LETTER A WITH DOT,LATIN SMALL LETTER A WITH RING=ABOVE BELOW",
   "LATIN SMALL LETTER A WITH DOUBLE,LATIN SMALL LETTER E WITH DOUBLE=GRAVE",
   "LATIN SMALL LETTER A WITH RETROFLEX,LATIN SMALL LETTER ALPHA WITH RETROFLEX=HOOK",
   "LATIN SMALL LETTER A WITH RIGHT HALF,LATIN SMALL LETTER CHI WITH LOW RIGHT=RING",
   "LATIN SMALL LETTER A WITH RING ABOVE AND=ACUTE",
   "LATIN SMALL LETTER A WITH,LATIN SMALL LETTER I WITH=ACUTE BREVE CARON CIRCUMFLEX DIAERESIS",
   "LATIN SMALL LETTER A WITH,LATIN SMALL LETTER I WITH=GRAVE MACRON OGONEK STROKE TILDE",
   "LATIN SMALL LETTER A=REVERSED-SCHWA",
   "LATIN SMALL LETTER B WITH DOT,LATIN SMALL LETTER D WITH DOT=ABOVE BELOW",
   "LATIN SMALL LETTER B WITH PALATAL,LATIN SMALL LETTER C WITH PALATAL=HOOK",
   "LATIN SMALL LETTER BARRED=ALPHA E O",
   "LATIN SMALL LETTER BASELINE,LATIN SMALL LETTER SQUAT REVERSED=ESH",
   "LATIN SMALL LETTER BLACKLETTER,MODIFIER LETTER SMALL OPEN=E O",
   "LATIN SMALL LETTER BOTTOM HALF,LATIN SMALL LETTER OLD POLISH=O",
   "LATIN SMALL LETTER C WITH CEDILLA AND,LATIN SMALL LETTER I WITH DIAERESIS AND=ACUTE",
   "LATIN SMALL LETTER C WITH DOT,LATIN SMALL LETTER E WITH CIRCUMFLEX AND HOOK=ABOVE",
   "LATIN SMALL LETTER C WITH RETROFLEX,LATIN SMALL LETTER D WITH PALATAL=HOOK",
   "LATIN SMALL LETTER C WITH=ACUTE BAR CARON CEDILLA CIRCUMFLEX CURL HOOK STROKE",
   "LATIN SMALL LETTER CHI WITH LOW LEFT=SERIF",
   "LATIN SMALL LETTER CLOSED REVERSED OPEN,LATIN SMALL LETTER IOTIFIED=E",
   "LATIN SMALL LETTER CLOSED,LINEAR A SIGN A713,MODIFIER LETTER SMALL CLOSED=OMEGA",
   "LATIN SMALL LETTER D WITH CIRCUMFLEX,LATIN SMALL LETTER D WITH LINE=BELOW",
   "LATIN SMALL LETTER D WITH MIDDLE,LATIN SMALL LETTER F WITH MIDDLE=TILDE",
   "LATIN SMALL LETTER D WITH SHORT STROKE=OVERLAY",
   "LATIN SMALL LETTER D WITH=CARON CEDILLA CURL HOOK STROKE TAIL TOPBAR",
   "LATIN SMALL LETTER DB,LATIN SMALL LETTER DEZH,LATIN SMALL LETTER DZ=DIGRAPH",
   "LATIN SMALL LETTER DEZH DIGRAPH WITH PALATAL=HOOK",
   "LATIN SMALL LETTER DEZH DIGRAPH WITH RETROFLEX=HOOK",
   "LATIN SMALL LETTER DOTLESS J WITH STROKE AND=HOOK",
   "LATIN SMALL LETTER DOTLESS J WITH,LATIN SMALL LETTER G WITH OBLIQUE=STROKE",
   "LATIN SMALL LETTER DOTLESS,MATHEMATICAL ITALIC SMALL DOTLESS=I J",
   "LATIN SMALL LETTER DOUBLE R WITH,LATIN SMALL LETTER ENG WITH=CROSSED-TAIL",
   "LATIN SMALL LETTER DOUBLE=R THORN WYNN",
   "LATIN SMALL LETTER DZ DIGRAPH WITH RETROFLEX=HOOK",
   "LATIN SMALL LETTER E WITH CEDILLA AND,LATIN SMALL LETTER E WITH INVERTED=BREVE",
   "LATIN SMALL LETTER E WITH CIRCUMFLEX AND DOT,LATIN SMALL LETTER E WITH TILDE=BELOW",
   "LATIN SMALL LETTER E WITH CIRCUMFLEX AND=ACUTE GRAVE TILDE",
   "LATIN SMALL LETTER E WITH CIRCUMFLEX=BELOW",
   "LATIN SMALL LETTER E WITH DOT,LATIN SMALL LETTER H WITH DOT=ABOVE BELOW",
   "LATIN SMALL LETTER E WITH HOOK,LATIN SMALL LETTER F WITH DOT=ABOVE",
   "LATIN SMALL LETTER E WITH MACRON AND,LATIN SMALL LETTER O WITH DOUBLE=ACUTE GRAVE",
   "LATIN SMALL LETTER E WITH RETROFLEX,LATIN SMALL LETTER ENG WITH PALATAL=HOOK",
   "LATIN SMALL LETTER E WITH=ACUTE BREVE CARON CEDILLA CIRCUMFLEX DIAERESIS FLOURISH GRAVE",
   "LATIN SMALL LETTER E WITH=MACRON NOTCH OGONEK STROKE TILDE",
   "LATIN SMALL LETTER ESH WITH DOUBLE,LATIN SMALL LETTER L WITH DOUBLE=BAR",
   "LATIN SMALL LETTER ESH WITH PALATAL,LATIN SMALL LETTER ESH WITH RETROFLEX=HOOK",
   "LATIN SMALL LETTER ESH WITH,LATIN SMALL LETTER ESH WITH DOUBLE BAR AND=CURL",
   "LATIN SMALL LETTER EZH WITH PALATAL,LATIN SMALL LETTER EZH WITH RETROFLEX=HOOK",
   "LATIN SMALL LETTER EZH WITH=CARON CURL TAIL",
   "LATIN SMALL LETTER EZH=REVERSED",
   "LATIN SMALL LETTER F WITH PALATAL,LATIN SMALL LETTER G WITH PALATAL=HOOK",
   "LATIN SMALL LETTER FENG DIGRAPH WITH=TRILL",
   "LATIN SMALL LETTER FENG,LATIN SMALL LETTER LS,LATIN SMALL LETTER LZ=DIGRAPH",
   "LATIN SMALL LETTER G WITH DOT,LATIN SMALL LETTER I WITH HOOK=ABOVE",
   "LATIN SMALL LETTER H WITH BREVE,LATIN SMALL LETTER H WITH LINE=BELOW",
   "LATIN SMALL LETTER H WITH PALATAL,LATIN SMALL LETTER HENG WITH=HOOK",
   "LATIN SMALL LETTER I WITH DOT,LATIN SMALL LETTER I WITH TILDE=BELOW",
   "LATIN SMALL LETTER I WITH DOUBLE,LATIN SMALL LETTER R WITH DOUBLE=GRAVE",
   "LATIN SMALL LETTER I WITH INVERTED,LATIN SMALL LETTER O WITH INVERTED=BREVE",
   "LATIN SMALL LETTER I WITH RETROFLEX=HOOK",
   "LATIN SMALL LETTER I WITH STROKE AND RETROFLEX=HOOK",
   "LATIN SMALL LETTER INVERTED=ALPHA OE",
   "LATIN SMALL LETTER IOTA WITH,LATIN SMALL LETTER K WITH DIAGONAL=STROKE",
   "LATIN SMALL LETTER J WITH=CARON CIRCUMFLEX CROSSED-TAIL STROKE",
   "LATIN SMALL LETTER K WITH DOT,LATIN SMALL LETTER K WITH LINE=BELOW",
   "LATIN SMALL LETTER K WITH OBLIQUE=STROKE",
   "LATIN SMALL LETTER K WITH PALATAL,LATIN SMALL LETTER L WITH BELT AND PALATAL=HOOK",
   "LATIN SMALL LETTER K WITH STROKE AND DIAGONAL,LATIN SMALL LETTER L WITH HIGH=STROKE",
   "LATIN SMALL LETTER L WITH CIRCUMFLEX,LATIN SMALL LETTER L WITH DOT=BELOW",
   "LATIN SMALL LETTER L WITH DOT BELOW AND=MACRON",
   "LATIN SMALL LETTER L WITH DOUBLE MIDDLE,LATIN SMALL LETTER M WITH MIDDLE=TILDE",
   "LATIN SMALL LETTER L WITH LINE,LATIN SMALL LETTER N WITH CIRCUMFLEX=BELOW",
   "LATIN SMALL LETTER L WITH MIDDLE=DOT RING TILDE",
   "LATIN SMALL LETTER L WITH PALATAL,LATIN SMALL LETTER L WITH RETROFLEX=HOOK",
   "LATIN SMALL LETTER L WITH RETROFLEX HOOK AND,LATIN SMALL LETTER TURNED Y WITH=BELT",
   "LATIN SMALL LETTER L WITH=ACUTE BAR BELT CARON CEDILLA CURL FISHHOOK STROKE",
   "LATIN SMALL LETTER LAMBDA WITH,LATIN SMALL LETTER LONG S WITH DIAGONAL=STROKE",
   "LATIN SMALL LETTER LENIS,LINEAR A SIGN A705,RUNIC LETTER FEHU FEOH FE=F",
   "LATIN SMALL LETTER LEZH WITH RETROFLEX,LATIN SMALL LETTER M WITH PALATAL=HOOK",
   "LATIN SMALL LETTER LONG S WITH DOT=ABOVE",
   "LATIN SMALL LETTER LONG S WITH HIGH,LATIN SMALL LETTER N WITH OBLIQUE=STROKE",
   "LATIN SMALL LETTER LONG,LATIN SMALL LETTER MIDDLE SCOTS,LATIN SMALL LETTER SHARP=S",
   "LATIN SMALL LETTER M WITH DOT,LATIN SMALL LETTER N WITH DOT=ABOVE BELOW",
   "LATIN SMALL LETTER M WITH=ACUTE CROSSED-TAIL HOOK",
   "LATIN SMALL LETTER N PRECEDED BY,NKO HIGH TONE,NKO LOW TONE=APOSTROPHE",
   "LATIN SMALL LETTER N WITH LEFT,LATIN SMALL LETTER N WITH PALATAL=HOOK",
   "LATIN SMALL LETTER N WITH LINE,LATIN SMALL LETTER O WITH CIRCUMFLEX AND DOT=BELOW",
   "LATIN SMALL LETTER N WITH LONG RIGHT,LATIN SMALL LETTER R WITH LONG=LEG",
   "LATIN SMALL LETTER N WITH MIDDLE,LATIN SMALL LETTER P WITH MIDDLE=TILDE",
   "LATIN SMALL LETTER N WITH RETROFLEX,LATIN SMALL LETTER O WITH RETROFLEX=HOOK",
   "LATIN SMALL LETTER N WITH=ACUTE CARON CEDILLA CROSSED-TAIL CURL DESCENDER GRAVE TILDE",
   "LATIN SMALL LETTER O WITH CIRCUMFLEX AND HOOK,LATIN SMALL LETTER O WITH HOOK=ABOVE",
   "LATIN SMALL LETTER O WITH CIRCUMFLEX AND,LATIN SMALL LETTER O WITH HORN AND=ACUTE GRAVE",
   "LATIN SMALL LETTER O WITH CIRCUMFLEX AND,LATIN SMALL LETTER O WITH HORN AND=TILDE",
   "LATIN SMALL LETTER O WITH DIAERESIS AND=MACRON",
   "LATIN SMALL LETTER O WITH DOT ABOVE AND,LATIN SMALL LETTER O WITH OGONEK AND=MACRON",
   "LATIN SMALL LETTER O WITH DOT,LATIN SMALL LETTER R WITH DOT=ABOVE BELOW",
   "LATIN SMALL LETTER O WITH HORN AND DOT,LATIN SMALL LETTER R WITH LINE=BELOW",
   "LATIN SMALL LETTER O WITH HORN AND HOOK,LATIN SMALL LETTER P WITH DOT=ABOVE",
   "LATIN SMALL LETTER O WITH LONG STROKE=OVERLAY",
   "LATIN SMALL LETTER O WITH LOW RING,LESS-THAN WITH CIRCLE,OR WITH DOT=INSIDE",
   "LATIN SMALL LETTER O WITH MACRON AND,LATIN SMALL LETTER U WITH DOUBLE=ACUTE GRAVE",
   "LATIN SMALL LETTER O WITH STROKE AND,LATIN SMALL LETTER U WITH TILDE AND=ACUTE",
   "LATIN SMALL LETTER OPEN E WITH RETROFLEX=HOOK",
   "LATIN SMALL LETTER OPEN O WITH RETROFLEX,LATIN SMALL LETTER P WITH PALATAL=HOOK",
   "LATIN SMALL LETTER OPEN O WITH,LATIN SMALL LETTER Q WITH DIAGONAL=STROKE",
   "LATIN SMALL LETTER OPEN=E O OE",
   "LATIN SMALL LETTER P WITH SQUIRREL,LATIN SMALL LETTER Q WITH HOOK=TAIL",
   "LATIN SMALL LETTER P WITH STROKE THROUGH=DESCENDER",
   "LATIN SMALL LETTER Q WITH STROKE THROUGH=DESCENDER",
   "LATIN SMALL LETTER Q WITH,LATIN SMALL LETTER R WITH FISHHOOK AND PALATAL=HOOK",
   "LATIN SMALL LETTER QP,LATIN SMALL LETTER TESH,LATIN SMALL LETTER TS=DIGRAPH",
   "LATIN SMALL LETTER R WITH DOT BELOW AND=MACRON",
   "LATIN SMALL LETTER R WITH FISHHOOK AND MIDDLE=TILDE",
   "LATIN SMALL LETTER R WITH INVERTED,LATIN SMALL LETTER U WITH INVERTED=BREVE",
   "LATIN SMALL LETTER R WITH MIDDLE,LATIN SMALL LETTER S WITH MIDDLE=TILDE",
   "LATIN SMALL LETTER R WITH OBLIQUE,LATIN SMALL LETTER S WITH OBLIQUE=STROKE",
   "LATIN SMALL LETTER R WITH PALATAL,LATIN SMALL LETTER REVERSED OPEN E WITH=HOOK",
   "LATIN SMALL LETTER R WITH=ACUTE CARON CEDILLA CROSSED-TAIL FISHHOOK STROKE TAIL",
   "LATIN SMALL LETTER R WITHOUT,TEACUP WITHOUT=HANDLE",
   "LATIN SMALL LETTER RAMS,LINEAR B IDEOGRAM B151,MODIFIER LETTER SMALL RAMS=HORN",
   "LATIN SMALL LETTER REVERSED C WITH,LEFT ANGLE BRACKET WITH=DOT",
   "LATIN SMALL LETTER REVERSED HALF,LINEAR A SIGN A706,RUNIC LETTER HAEGL=H",
   "LATIN SMALL LETTER REVERSED OPEN E WITH RETROFLEX=HOOK",
   "LATIN SMALL LETTER REVERSED OPEN,LATIN SMALL LETTER TURNED OPEN=E",
   "LATIN SMALL LETTER REVERSED R WITH,LATIN SMALL LETTER TURNED H WITH=FISHHOOK",
   "LATIN SMALL LETTER REVERSED SCRIPT,LATIN SMALL LETTER TURNED INSULAR=G",
   "LATIN SMALL LETTER REVERSED=C E ENG K",
   "LATIN SMALL LETTER RUM=ROTUNDA",
   "LATIN SMALL LETTER S WITH ACUTE AND DOT=ABOVE",
   "LATIN SMALL LETTER S WITH CARON AND DOT=ABOVE",
   "LATIN SMALL LETTER S WITH COMMA,LATIN SMALL LETTER T WITH CIRCUMFLEX=BELOW",
   "LATIN SMALL LETTER S WITH DOT BELOW AND DOT,LATIN SMALL LETTER U WITH HOOK=ABOVE",
   "LATIN SMALL LETTER S WITH DOT,LATIN SMALL LETTER T WITH DOT=ABOVE BELOW",
   "LATIN SMALL LETTER S WITH PALATAL,LATIN SMALL LETTER SCHWA WITH=HOOK",
   "LATIN SMALL LETTER S WITH SHORT STROKE=OVERLAY",
   "LATIN SMALL LETTER S WITH SWASH,LATIN SMALL LETTER TURNED H WITH FISHHOOK AND=TAIL",
   "LATIN SMALL LETTER S WITH=ACUTE CARON CEDILLA CIRCUMFLEX CURL HOOK",
   "LATIN SMALL LETTER SAKHA=YAT",
   "LATIN SMALL LETTER SCHWA WITH RETROFLEX=HOOK",
   "LATIN SMALL LETTER SCRIPT G WITH,MODIFIER LETTER SMALL J WITH=CROSSED-TAIL",
   "LATIN SMALL LETTER SCRIPT R WITH=RING",
   "LATIN SMALL LETTER SCRIPT=G R",
   "LATIN SMALL LETTER SIDEWAYS DIAERESIZED,LINEAR B SYLLABLE B010=U",
   "LATIN SMALL LETTER SIDEWAYS O WITH,LATIN SMALL LETTER T WITH DIAGONAL=STROKE",
   "LATIN SMALL LETTER SIDEWAYS OPEN,LATIN SMALL LETTER TOP HALF=O",
   "LATIN SMALL LETTER SIDEWAYS=O U",
   "LATIN SMALL LETTER SIGMOID,MODIFIER LETTER SMALL L WITH INVERTED LAZY=S",
   "LATIN SMALL LETTER T WITH COMMA,LATIN SMALL LETTER T WITH LINE=BELOW",
   "LATIN SMALL LETTER T WITH HOOK AND RETROFLEX,LATIN SMALL LETTER T WITH PALATAL=HOOK",
   "LATIN SMALL LETTER T WITH MIDDLE,LATIN SMALL LETTER TURNED R WITH MIDDLE=TILDE",
   "LATIN SMALL LETTER T WITH RETROFLEX=HOOK",
   "LATIN SMALL LETTER T WITH=CARON CEDILLA CURL DIAERESIS HOOK STROKE",
   "LATIN SMALL LETTER TAILLESS=PHI",
   "LATIN SMALL LETTER TC DIGRAPH WITH,LATIN SMALL LETTER TURNED T WITH=CURL",
   "LATIN SMALL LETTER TESH DIGRAPH WITH PALATAL=HOOK",
   "LATIN SMALL LETTER TESH DIGRAPH WITH RETROFLEX=HOOK",
   "LATIN SMALL LETTER TH WITH=STRIKETHROUGH",
   "LATIN SMALL LETTER THORN WITH STROKE THROUGH=DESCENDER",
   "LATIN SMALL LETTER THORN WITH,LATIN SMALL LETTER TURNED O OPEN-O WITH=STROKE",
   "LATIN SMALL LETTER TS DIGRAPH WITH RETROFLEX=HOOK",
   "LATIN SMALL LETTER TURNED M WITH LONG,LATIN SMALL LETTER TURNED R WITH LONG=LEG",
   "LATIN SMALL LETTER TURNED O=OPEN-O",
   "LATIN SMALL LETTER TURNED OE WITH HORIZONTAL,LATIN SMALL LETTER UPSILON WITH=STROKE",
   "LATIN SMALL LETTER TURNED OE WITH=STROKE",
   "LATIN SMALL LETTER TURNED R WITH LONG LEG AND RETROFLEX=HOOK",
   "LATIN SMALL LETTER TURNED R WITH PALATAL,LATIN SMALL LETTER U WITH LEFT=HOOK",
   "LATIN SMALL LETTER TURNED R WITH,MODIFIER LETTER SMALL D WITH=HOOK TAIL",
   "LATIN SMALL LETTER TURNED=A AE ALPHA DELTA E G H I K L M OE R T UI V W Y",
   "LATIN SMALL LETTER U BAR WITH SHORT RIGHT,LATIN SMALL LETTER U WITH SHORT RIGHT=LEG",
   "LATIN SMALL LETTER U WITH CIRCUMFLEX,LATIN SMALL LETTER U WITH DIAERESIS=BELOW",
   "LATIN SMALL LETTER U WITH DIAERESIS AND=ACUTE CARON GRAVE MACRON",
   "LATIN SMALL LETTER U WITH DOT,LATIN SMALL LETTER U WITH HORN AND DOT=BELOW",
   "LATIN SMALL LETTER U WITH HORN AND HOOK,LATIN SMALL LETTER U WITH RING=ABOVE",
   "LATIN SMALL LETTER U WITH HORN AND=ACUTE GRAVE TILDE",
   "LATIN SMALL LETTER U WITH RETROFLEX,LATIN SMALL LETTER V WITH PALATAL=HOOK",
   "LATIN SMALL LETTER U WITH TILDE,LATIN SMALL LETTER V WITH DOT=BELOW",
   "LATIN SMALL LETTER U,LEFT TRIANGLE BESIDE VERTICAL,LEFTWARDS ARROW FROM=BAR",
   "LATIN SMALL LETTER V WITH DIAGONAL,LEFT RIGHT ARROW WITH=STROKE",
   "LATIN SMALL LETTER V WITH RIGHT,LATIN SMALL LETTER X WITH PALATAL=HOOK",
   "LATIN SMALL LETTER V WITH=CURL HOOK TILDE",
   "LATIN SMALL LETTER W WITH DOT,LATIN SMALL LETTER Y WITH DOT=ABOVE BELOW",
   "LATIN SMALL LETTER W WITH RING,LATIN SMALL LETTER X WITH DOT=ABOVE",
   "LATIN SMALL LETTER X WITH LONG LEFT LEG AND LOW RIGHT=RING",
   "LATIN SMALL LETTER X WITH LONG LEFT LEG WITH=SERIF",
   "LATIN SMALL LETTER X WITH LONG LEFT,LATIN SMALL LETTER Y WITH SHORT RIGHT=LEG",
   "LATIN SMALL LETTER X WITH LOW RIGHT,MODIFIER LETTER CENTRED LEFT HALF=RING",
   "LATIN SMALL LETTER X WITH=DIAERESIS",
   "LATIN SMALL LETTER Y WITH HOOK,LATIN SMALL LETTER Y WITH RING=ABOVE",
   "LATIN SMALL LETTER Z WITH DOT,MANICHAEAN ABBREVIATION MARK=ABOVE BELOW",
   "LATIN SMALL LETTER Z WITH LINE,LEFTWARDS ARROW WITH PLUS,MINUS SIGN WITH DOT=BELOW",
   "LATIN SMALL LETTER Z WITH MIDDLE,MODIFIER LETTER SMALL L WITH MIDDLE=TILDE",
   "LATIN SMALL LETTER Z WITH PALATAL,LATIN SMALL LETTER Z WITH RETROFLEX=HOOK",
   "LATIN SMALL LETTER Z WITH SWASH,LEFT FISH,LEFTWARDS ARROW WITH NOTCHED=TAIL",
   "LATIN SMALL LETTER Z WITH=ACUTE CARON CIRCUMFLEX CURL DESCENDER HOOK STROKE",
   "LATIN SMALL LETTER=A AA AE ALPHA AO AU AV AY B BETA C CHI CON CUATRILLO D DELTA DUM DZ E ENG",
   "LATIN SMALL LETTER=ESH ET ETH EZH F G GAMMA GHA H HENG HV I IOTA IS J K KRA L LEZH LJ LUM M",
   "LATIN SMALL LETTER=MUM N NJ NUM O OI OMEGA OO OU P PHI Q R RUM S SALTILLO SCHWA T THORN",
   "LATIN SMALL LETTER=TRESILLO TUM TZ U UE UI UM UO UPSILON V VEND VY W X Y YOGH Z",
   "LATIN SMALL LIGATURE LONG S,RUNIC LETTER SHORT-TWIG-TYR=T",
   "LATIN SMALL LIGATURE=FF FFI FFL FI FL IJ OE ST",
   "LATIN SUBSCRIPT SMALL LETTER=A E H I J K L M N O P R S SCHWA T U V X",
   "LEAFY=GREEN",
   "LEFT AND LOWER AND RIGHT TRIANGULAR THREE QUARTERS,LEFT AND LOWER ONE EIGHTH=BLOCK",
   "LEFT AND RIGHT TRIANGULAR HALF=BLOCK",
   "LEFT AND RIGHT,LONG LEFT,LONG RIGHT,SHORT DOWN,SHORT LEFT,SHORT UP=TACK",
   "LEFT AND UPPER AND RIGHT TRIANGULAR THREE QUARTERS,LEFT AND UPPER ONE EIGHTH=BLOCK",
   "LEFT ANGER,LEFT SPEECH,LEFT THOUGHT,LIGHTNING MOOD,MOOD,RIGHT ANGER=BUBBLE",
   "LEFT ANGLE,LEFT ARC LESS-THAN,LEFT BLACK LENTICULAR=BRACKET",
   "LEFT ARROW WITH CIRCLED,RIGHT ARROW WITH CIRCLED=PLUS",
   "LEFT ARROW WITH SMALL,LEFT RIGHT ARROW THROUGH SMALL=CIRCLE",
   "LEFT BARB DOWN RIGHT BARB DOWN,LEFT BARB DOWN RIGHT BARB UP=HARPOON",
   "LEFT BARB UP RIGHT BARB DOWN,LEFT BARB UP RIGHT BARB UP=HARPOON",
   "LEFT BLACK TORTOISE SHELL,LEFT CORNER,LEFT CURLY,LEFT DOTTED SUBSTITUTION=BRACKET",
   "LEFT CLOSED=ENTRY",
   "LEFT CURLY BRACKET LOWER,LEFT CURLY BRACKET UPPER,LEFT PARENTHESIS LOWER=HOOK",
   "LEFT DOUBLE ANGLE,LEFT LOW PARAPHRASE,LEFT RAISED OMISSION,LEFT SIDEWAYS U=BRACKET",
   "LEFT DOUBLE WIGGLY,LEFT WIGGLY,RIGHT DOUBLE WIGGLY,RIGHT WIGGLY=FENCE",
   "LEFT FIVE EIGHTHS,LEFT HALF INVERSE MEDIUM SHADE AND RIGHT HALF=BLOCK",
   "LEFT HALF BLACK,RIGHT HALF BLACK,SHADOWED WHITE=CIRCLE STAR",
   "LEFT HALF CIRCLE WITH FOUR,LEFT HALF CIRCLE WITH THREE=DOTS",
   "LEFT HALF CIRCLE WITH TWO,LEFT-FACING SVASTI SIGN WITH=DOTS",
   "LEFT HALF CIRCLE WITH,LESS-THAN WITH,LOW KAVYKA WITH,LOWER RIGHT CORNER WITH=DOT",
   "LEFT HALF RUNNING,LINEAR B IDEOGRAM B100,MENDE KIKAKUI SYLLABLE M008=MAN",
   "LEFT HALF=BLOCK CIRCLE FOLDER",
   "LEFT HAND TELEPHONE,RIGHT HAND TELEPHONE=RECEIVER",
   "LEFT ONE EIGHTH,LEFT ONE QUARTER,LEFT SEVEN EIGHTHS,LEFT THREE EIGHTHS=BLOCK",
   "LEFT PARENTHESIS UPPER,MODIFIER LETTER RETROFLEX CLICK WITH RETROFLEX=HOOK",
   "LEFT RIGHT ARROW WITH DOUBLE VERTICAL,LEFT RIGHT ARROW WITH VERTICAL=STROKE",
   "LEFT RIGHT DOUBLE ARROW WITH,LEFT RIGHT DOUBLE ARROW WITH VERTICAL=STROKE",
   "LEFT RIGHT OPEN-HEADED,LEFT RIGHT SANS-SERIF,LEFT RIGHT TRIANGLE-HEADED=ARROW",
   "LEFT RIGHT WAVE,LEFT RIGHT WHITE,LEFT-SHADED WHITE RIGHTWARDS=ARROW",
   "LEFT S-SHAPED BAG,RIGHT S-SHAPED BAG,TRIPLE VERTICAL BAR=DELIMITER",
   "LEFT SEMIDIRECT,RIGHT NORMAL FACTOR SEMIDIRECT,RIGHT SEMIDIRECT=PRODUCT",
   "LEFT SQUARE BRACKET LOWER,LEFT SQUARE BRACKET UPPER=CORNER",
   "LEFT SQUARE BRACKET WITH DOUBLE,LEFTWARDS ARROW WITH DOUBLE VERTICAL=STROKE",
   "LEFT SQUARE BRACKET WITH TICK IN BOTTOM,LEFT SQUARE BRACKET WITH TICK IN TOP=CORNER",
   "LEFT SQUARE BRACKET WITH,RIGHT SQUARE BRACKET WITH=QUILL STROKE UNDERBAR",
   "LEFT SQUARE BRACKET,RIGHT PARENTHESIS,RIGHT SQUARE BRACKET,VERTICAL LINE=EXTENSION",
   "LEFT SQUARE,LEFT SUBSTITUTION,LEFT TORTOISE SHELL,LEFT TRANSPOSITION=BRACKET",
   "LEFT THREE QUARTERS,LEFT TRIANGULAR ONE QUARTER=BLOCK",
   "LEFT VERTICAL BAR WITH,RIGHT VERTICAL BAR WITH=QUILL",
   "LEFT WHITE CORNER,LEFT WHITE CURLY,LEFT WHITE LENTICULAR,LEFT WHITE SQUARE=BRACKET",
   "LEFT WHITE TORTOISE SHELL,LEFT-POINTING ANGLE,LEFT-POINTING CURVED ANGLE=BRACKET",
   "LEFT WHITE,MATHEMATICAL LEFT FLATTENED,MATHEMATICAL RIGHT FLATTENED=PARENTHESIS",
   "LEFT-FACING,RIGHT-FACING=FIST",
   "LEFT-HANDED INTERLACED,RIGHT-HANDED INTERLACED=PENTAGRAM",
   "LEFT-POINTING DOUBLE ANGLE QUOTATION,LIGHT CHECK,LIMBU EXCLAMATION=MARK",
   "LEFT-SIDE ARC ANTICLOCKWISE,LEFTWARDS ARROW ABOVE SHORT RIGHTWARDS=ARROW",
   "LEFT-TO-RIGHT,RIGHT-TO-LEFT=EMBEDDING ISOLATE MARK OVERRIDE",
   "LEFT=CEILING FLOOR LUGGAGE MULTIMAP PARENTHESIS TACK",
   "LEFTWARDS ARROW ABOVE ALMOST EQUAL,LEFTWARDS ARROW ABOVE REVERSE ALMOST EQUAL=TO",
   "LEFTWARDS ARROW ABOVE TILDE,N-ARY CIRCLED DOT,N-ARY CIRCLED PLUS=OPERATOR",
   "LEFTWARDS ARROW AND UPPER AND LOWER ONE EIGHTH,LOWER FIVE EIGHTHS=BLOCK",
   "LEFTWARDS ARROW FROM BAR TO BLACK,LEFTWARDS ARROW TO BLACK=DIAMOND",
   "LEFTWARDS ARROW OVER RIGHTWARDS,LEFTWARDS BACK-TILTED SHADOWED WHITE=ARROW",
   "LEFTWARDS ARROW THROUGH=LESS-THAN SUBSET X",
   "LEFTWARDS ARROW TO,LEFTWARDS ARROW TO BAR OVER RIGHTWARDS ARROW TO=BAR",
   "LEFTWARDS ARROW WITH DOTTED,LOGICAL AND WITH MIDDLE,LOGICAL OR WITH MIDDLE=STEM",
   "LEFTWARDS ARROW WITH EQUILATERAL,LEFTWARDS ARROW WITH LARGE TRIANGLE=ARROWHEAD",
   "LEFTWARDS ARROW WITH MEDIUM TRIANGLE=ARROWHEAD",
   "LEFTWARDS ARROW WITH SMALL EQUILATERAL=ARROWHEAD",
   "LEFTWARDS ARROW WITH SMALL TRIANGLE,LEFTWARDS TRIANGLE=ARROWHEAD",
   "LEFTWARDS ARROW WITH TAIL WITH DOUBLE VERTICAL=STROKE",
   "LEFTWARDS ARROW WITH TAIL WITH VERTICAL,LEFTWARDS ARROW WITH VERTICAL=STROKE",
   "LEFTWARDS ARROW WITH TIP,LEFTWARDS HARPOON WITH BARB=DOWNWARDS UPWARDS",
   "LEFTWARDS ARROW WITH,RIGHTWARDS ARROW WITH=HOOK LOOP STROKE TAIL",
   "LEFTWARDS BLACK,LEFTWARDS BLACK CIRCLED WHITE,LEFTWARDS BOTTOM-SHADED WHITE=ARROW",
   "LEFTWARDS COMPRESSED,LEFTWARDS DASHED,LEFTWARDS DOUBLE DASH=ARROW",
   "LEFTWARDS DOUBLE ARROW FROM,LEFTWARDS HARPOON WITH BARB DOWN FROM=BAR",
   "LEFTWARDS DOUBLE ARROW WITH,LEFTWARDS DOUBLE ARROW WITH VERTICAL=STROKE",
   "LEFTWARDS DOUBLE,RIGHTWARDS DOUBLE=ARROW ARROW-TAIL",
   "LEFTWARDS FINGER-POST,LEFTWARDS FRONT-TILTED SHADOWED WHITE,LEFTWARDS HEAVY=ARROW",
   "LEFTWARDS HARPOON OVER RIGHTWARDS,RIGHTWARDS HARPOON OVER LEFTWARDS=HARPOON",
   "LEFTWARDS HARPOON WITH BARB DOWN ABOVE RIGHTWARDS HARPOON WITH BARB=DOWN",
   "LEFTWARDS HARPOON WITH BARB DOWN BELOW LONG=DASH",
   "LEFTWARDS HARPOON WITH BARB DOWN TO,LEFTWARDS HARPOON WITH BARB UP FROM=BAR",
   "LEFTWARDS HARPOON WITH BARB UP ABOVE LEFTWARDS HARPOON WITH BARB=DOWN",
   "LEFTWARDS HARPOON WITH BARB UP ABOVE LONG,LOGICAL AND WITH HORIZONTAL=DASH",
   "LEFTWARDS HARPOON WITH BARB UP TO,LEFTWARDS TRIANGLE-HEADED ARROW TO=BAR",
   "LEFTWARDS HEAVY COMPRESSED,LEFTWARDS LEFT-SHADED WHITE,LEFTWARDS OPEN-HEADED=ARROW",
   "LEFTWARDS QUADRUPLE,LEFTWARDS RIGHT-SHADED WHITE,LEFTWARDS SANS-SERIF=ARROW",
   "LEFTWARDS SQUARED,LEFTWARDS SQUIGGLE,LEFTWARDS TOP SHADED WHITE=ARROW",
   "LEFTWARDS TRIANGLE-HEADED ARROW OVER RIGHTWARDS TRIANGLE-HEADED=ARROW",
   "LEFTWARDS TRIANGLE-HEADED ARROW WITH BOLD=SHAFT",
   "LEFTWARDS TRIANGLE-HEADED ARROW WITH DOUBLE HORIZONTAL=STROKE",
   "LEFTWARDS TRIANGLE-HEADED ARROW WITH DOUBLE VERTICAL=STROKE",
   "LEFTWARDS TRIANGLE-HEADED ARROW WITH HEAVY=SHAFT",
   "LEFTWARDS TRIANGLE-HEADED ARROW WITH LONG TIP,RIGHTWARDS ARROW WITH TIP=DOWNWARDS UPWARDS",
   "LEFTWARDS TRIANGLE-HEADED ARROW WITH MEDIUM=SHAFT",
   "LEFTWARDS TRIANGLE-HEADED ARROW WITH NARROW=SHAFT",
   "LEFTWARDS TRIANGLE-HEADED ARROW WITH VERY HEAVY=SHAFT",
   "LEFTWARDS TRIANGLE-HEADED DASHED,LEFTWARDS TRIPLE,LEFTWARDS TRIPLE DASH=ARROW",
   "LEFTWARDS TRIANGLE-HEADED PAIRED,RIGHTWARDS PAIRED=ARROWS",
   "LEFTWARDS TRIANGLE-HEADED=ARROW",
   "LEFTWARDS TWO HEADED,LEFTWARDS TWO-HEADED TRIPLE DASH,LEFTWARDS WAVE=ARROW",
   "LEFTWARDS TWO-HEADED ARROW FROM,LIGHT VERTICAL,LONG LEFTWARDS ARROW FROM=BAR",
   "LEFTWARDS TWO-HEADED ARROW WITH DOUBLE VERTICAL=STROKE",
   "LEFTWARDS TWO-HEADED ARROW WITH TAIL WITH DOUBLE VERTICAL=STROKE",
   "LEFTWARDS TWO-HEADED ARROW WITH TAIL WITH VERTICAL=STROKE",
   "LEFTWARDS TWO-HEADED ARROW WITH TRIANGLE=ARROWHEADS",
   "LEFTWARDS TWO-HEADED ARROW WITH VERTICAL,MODIFIER LETTER CAPITAL H WITH=STROKE",
   "LEFTWARDS TWO-HEADED ARROW WITH,MODIFIER LETTER SMALL D WITH HOOK AND=TAIL",
   "LEFTWARDS WHITE ARROW WITHIN TRIANGLE,MODIFIER LETTER LOW DOWN=ARROWHEAD",
   "LEFTWARDS WHITE,LESS-THAN ABOVE LEFTWARDS,LINEAR B IDEOGRAM B231=ARROW",
   "LEFTWARDS,RIGHTWARDS=ARROW ARROW-TAIL HAND ROCKET",
   "LEPCHA CONSONANT SIGN=K KANG L M N NYIN-DO P R T",
   "LEPCHA DIGIT,LIMBU DIGIT,MALAYALAM DIGIT,MASARAM GONDI DIGIT=EIGHT FIVE FOUR NINE ONE SEVEN",
   "LEPCHA DIGIT,LIMBU DIGIT,MALAYALAM DIGIT,MASARAM GONDI DIGIT=SIX THREE TWO ZERO",
   "LEPCHA LETTER=A BA BLA CA CHA DA DDA DZA FA FLA GA GLA HA HLA JA KA KHA KLA LA MA MLA NA NGA",
   "LEPCHA LETTER=NYA PA PHA PLA RA SA SHA TA THA TSA TSHA TTA TTHA VA WA YA",
   "LEPCHA PUNCTUATION NYET THYOOM=TA-ROL",
   "LEPCHA PUNCTUATION TSHOOK=CER-WA",
   "LEPCHA PUNCTUATION=CER-WA TA-ROL TSHOOK",
   "LEPCHA SIGN=NUKTA RAN",
   "LEPCHA VOWEL SIGN=AA E I O OO U UU",
   "LESS-THAN ABOVE DOUBLE-LINE EQUAL ABOVE,LESS-THAN ABOVE SIMILAR ABOVE=GREATER-THAN",
   "LESS-THAN ABOVE GREATER-THAN ABOVE DOUBLE-LINE,LESS-THAN ABOVE SIMILAR OR=EQUAL",
   "LESS-THAN ABOVE SLANTED EQUAL ABOVE GREATER-THAN ABOVE SLANTED=EQUAL",
   "LESS-THAN AND SINGLE-LINE NOT EQUAL,LESS-THAN BUT NOT EQUAL=TO",
   "LESS-THAN BUT NOT EQUIVALENT,LESS-THAN OR EQUAL,LESS-THAN OR EQUIVALENT=TO",
   "LESS-THAN CLOSED BY CURVE ABOVE SLANTED=EQUAL",
   "LESS-THAN EQUAL TO OR,NEITHER LESS-THAN NOR=GREATER-THAN",
   "LESS-THAN OR SLANTED EQUAL TO WITH DOT ABOVE=RIGHT",
   "LESS-THAN OR SLANTED EQUAL TO WITH DOT=ABOVE INSIDE",
   "LESS-THAN OR SLANTED EQUAL,LESS-THAN OVER EQUAL,LINEAR B SYLLABLE B005=TO",
   "LESS-THAN OR=APPROXIMATE GREATER-THAN",
   "LESS-THAN WITH QUESTION MARK,LOGICAL AND WITH DOT,LOGICAL OR WITH DOT=ABOVE",
   "LESS-THAN,LIMITED LIABILITY,LIRA,LIVRE TOURNOIS,MAHAJANI ABBREVIATION,MALE=SIGN",
   "LEVEL=SLIDER",
   "LIGATURE OPEN ET,LIGHT LEFT TORTOISE SHELL BRACKET=ORNAMENT",
   "LIGHT FOUR POINTED BLACK,WHITE FOUR POINTED=CUSP STAR",
   "LIGHT RIGHT TORTOISE SHELL BRACKET,MEDIUM FLATTENED LEFT PARENTHESIS=ORNAMENT",
   "LIGHT SIX SPOKED,MEDIUM EIGHT SPOKED,MEDIUM FIVE SPOKED,MEDIUM SIX SPOKED=ASTERISK",
   "LIGHT THREE POINTED BLACK,LIGHT TWELVE POINTED BLACK=STAR",
   "LIGHT=RAIL SALTIRE SHADE",
   "LIGHTNING=MOOD",
   "LIMBU LETTER=BA BHA CA CHA DA DHA GA GHA GYAN HA JA JHA KA KHA LA MA NA NGA PA PHA RA SA SHA",
   "LIMBU LETTER=SSA TA THA TRA WA YA YAN",
   "LIMBU QUESTION,LOW DOUBLE PRIME QUOTATION,LYDIAN TRIANGULAR,MAHAJANI SECTION=MARK",
   "LIMBU SIGN=KEMPHRENG LOO MUKPHRENG SA-I",
   "LIMBU SMALL LETTER=ANUSVARA KA LA MA NA NGA PA RA TA",
   "LIMBU SUBJOINED LETTER,PHAGS-PA SUBJOINED LETTER=RA WA YA",
   "LIMBU VOWEL SIGN=A AI AU E EE I O OO U",
   "LIMBU VOWEL-CARRIER=LETTER",
   "LINE INTEGRATION WITH RECTANGULAR PATH AROUND=POLE",
   "LINE INTEGRATION WITH SEMICIRCULAR PATH AROUND=POLE",
   "LINE=FEED SEPARATOR TABULATION",
   "LINEAR A SIGN A701,LINEAR B SYLLABLE B008,MENDE KIKAKUI SYLLABLE M014=A",
   "LINEAR A SIGN A704,LINEAR B SYLLABLE B038,MENDE KIKAKUI SYLLABLE M100=E",
   "LINEAR A SIGN A707,RUNIC LETTER JERAN=J",
   "LINEAR A SIGN A708,RUNIC LETTER KAUN,SQUARED EIGHT,SQUARED FOUR,SQUARED TWO=K",
   "LINEAR A SIGN A709-2=L2",
   "LINEAR A SIGN A709-3=L3",
   "LINEAR A SIGN A709-4=L4",
   "LINEAR A SIGN A709-6=L6",
   "LINEAR A SIGN A714=ABB",
   "LINEAR A SIGN A715=BB",
   "LINEAR A SIGN A717=DD",
   "LINEAR A SIGN A726=EYYY",
   "LINEAR A SIGN A732,LINEAR B SYLLABLE B046,MENDE KIKAKUI SYLLABLE M113=JE",
   "LINEAR A SIGN=A028B A100-102 A120B A131C A301 A302 A303 A304 A305 A306 A307 A308 A309A A309B",
   "LINEAR A SIGN=A309C A310 A311 A312 A313A A313B A313C A314 A315 A316 A317 A318 A319 A320 A321",
   "LINEAR A SIGN=A322 A323 A324 A325 A326 A327 A328 A329 A330 A331 A332 A333 A334 A335 A336",
   "LINEAR A SIGN=A337 A338 A339 A340 A341 A342 A343 A344 A345 A346 A347 A348 A349 A350 A351",
   "LINEAR A SIGN=A352 A353 A354 A355 A356 A357 A358 A359 A360 A361 A362 A363 A364 A365 A366",
   "LINEAR A SIGN=A367 A368 A369 A370 A371 A400-VAS A401-VAS A402-VAS A403-VAS A404-VAS A405-VAS",
   "LINEAR A SIGN=A406-VAS A407-VAS A408-VAS A409-VAS A410-VAS A411-VAS A412-VAS A413-VAS",
   "LINEAR A SIGN=A414-VAS A415-VAS A416-VAS A417-VAS A418-VAS A501 A502 A503 A504 A505 A506",
   "LINEAR A SIGN=A508 A509 A510 A511 A512 A513 A515 A516 A520 A521 A523 A524 A525 A526 A527",
   "LINEAR A SIGN=A528 A529 A530 A531 A532 A534 A535 A536 A537 A538 A539 A540 A541 A542 A545",
   "LINEAR A SIGN=A547 A548 A549 A550 A551 A552 A553 A554 A555 A556 A557 A559 A563 A564 A565",
   "LINEAR A SIGN=A566 A568 A569 A570 A571 A572 A573 A574 A575 A576 A577 A578 A579 A580 A581",
   "LINEAR A SIGN=A582 A583 A584 A585 A586 A587 A588 A589 A591 A592 A594 A595 A596 A598 A600",
   "LINEAR A SIGN=A601 A602 A603 A604 A606 A608 A609 A610 A611 A612 A613 A614 A615 A616 A617",
   "LINEAR A SIGN=A618 A619 A620 A621 A622 A623 A624 A626 A627 A628 A629 A634 A637 A638 A640",
   "LINEAR A SIGN=A642 A643 A644 A645 A646 A648 A649 A651 A652 A653 A654 A655 A656 A657 A658",
   "LINEAR A SIGN=A659 A660 A661 A662 A663 A664 A800 A801 A802 A803 A804 A805 A806 A807 AB001",
   "LINEAR A SIGN=AB002 AB003 AB004 AB005 AB006 AB007 AB008 AB009 AB010 AB011 AB013 AB016 AB017",
   "LINEAR A SIGN=AB020 AB021 AB021F AB021M AB022 AB022F AB022M AB023 AB023M AB024 AB026 AB027",
   "LINEAR A SIGN=AB028 AB029 AB030 AB031 AB034 AB037 AB038 AB039 AB040 AB041 AB044 AB045 AB046",
   "LINEAR A SIGN=AB047 AB048 AB049 AB050 AB051 AB053 AB054 AB055 AB056 AB057 AB058 AB059 AB060",
   "LINEAR A SIGN=AB061 AB065 AB066 AB067 AB069 AB070 AB073 AB074 AB076 AB077 AB078 AB079 AB080",
   "LINEAR A SIGN=AB081 AB082 AB085 AB086 AB087 AB118 AB120 AB122 AB123 AB131A AB131B AB164",
   "LINEAR A SIGN=AB171 AB180 AB188 AB191",
   "LINEAR B IDEOGRAM B102=WOMAN",
   "LINEAR B IDEOGRAM B104=DEER",
   "LINEAR B IDEOGRAM B105=EQUID",
   "LINEAR B IDEOGRAM B105F=MARE",
   "LINEAR B IDEOGRAM B105M=STALLION",
   "LINEAR B IDEOGRAM B106F=EWE",
   "LINEAR B IDEOGRAM B106M=RAM",
   "LINEAR B IDEOGRAM B107F=SHE-GOAT",
   "LINEAR B IDEOGRAM B107M=HE-GOAT",
   "LINEAR B IDEOGRAM B108F=SOW",
   "LINEAR B IDEOGRAM B108M=BOAR",
   "LINEAR B IDEOGRAM B109F=COW",
   "LINEAR B IDEOGRAM B109M=BULL",
   "LINEAR B IDEOGRAM B120=WHEAT",
   "LINEAR B IDEOGRAM B121=BARLEY",
   "LINEAR B IDEOGRAM B122=OLIVE",
   "LINEAR B IDEOGRAM B123=SPICE",
   "LINEAR B IDEOGRAM B125=CYPERUS",
   "LINEAR B IDEOGRAM B130=OIL",
   "LINEAR B IDEOGRAM B140=BRONZE",
   "LINEAR B IDEOGRAM B141=GOLD",
   "LINEAR B IDEOGRAM B145=WOOL",
   "LINEAR B IDEOGRAM B162=GARMENT",
   "LINEAR B IDEOGRAM B163=ARMOUR",
   "LINEAR B IDEOGRAM B173=MONTH",
   "LINEAR B IDEOGRAM B191=HELMET",
   "LINEAR B IDEOGRAM B220=FOOTSTOOL",
   "LINEAR B IDEOGRAM B225=BATHTUB",
   "LINEAR B IDEOGRAM B230=SPEAR",
   "LINEAR B IDEOGRAM B233=SWORD",
   "LINEAR B IDEOGRAM B240 WHEELED,LINEAR B IDEOGRAM B241=CHARIOT",
   "LINEAR B IDEOGRAM B242 CHARIOT=FRAME",
   "LINEAR B IDEOGRAM B254=DART",
   "LINEAR B IDEOGRAM VESSEL=B155 B200 B201 B202 B203 B204 B205 B206 B207 B208 B209 B210 B211",
   "LINEAR B IDEOGRAM VESSEL=B212 B213 B214 B215 B216 B217 B218 B219 B221 B222 B226 B227 B228",
   "LINEAR B IDEOGRAM VESSEL=B229 B250 B305",
   "LINEAR B IDEOGRAM=B132 B142 B146 B150 B152 B153 B154 B157 B158 B160 B161 B164 B165 B166 B167",
   "LINEAR B IDEOGRAM=B168 B169 B170 B171 B172 B174 B177 B178 B179 B180 B181 B182 B183 B184 B185",
   "LINEAR B IDEOGRAM=B189 B190 B232 B234 B236 B245 B246 B248 B249 B251 B252 B253 B255 B256 B257",
   "LINEAR B IDEOGRAM=B258 B259",
   "LINEAR B MONOGRAM B127=KAPO",
   "LINEAR B MONOGRAM B128=KANAKO",
   "LINEAR B MONOGRAM B133=AREPA",
   "LINEAR B MONOGRAM B135=MERI",
   "LINEAR B MONOGRAM B156=TURO2",
   "LINEAR B MONOGRAM B247=DIPTE",
   "LINEAR B SYLLABLE B001,MENDE KIKAKUI SYLLABLE M017,TIBETAN SIGN NYI ZLA NAA=DA",
   "LINEAR B SYLLABLE B002,TIBETAN SIGN RJES SU NGA=RO",
   "LINEAR B SYLLABLE B009,MENDE KIKAKUI SYLLABLE M116=SE",
   "LINEAR B SYLLABLE B011,LISU LETTER TONE NA,MENDE KIKAKUI SYLLABLE M066=PO",
   "LINEAR B SYLLABLE B012,MENDE KIKAKUI SYLLABLE M079=SO",
   "LINEAR B SYLLABLE B013=ME",
   "LINEAR B SYLLABLE B014,MENDE KIKAKUI SYLLABLE M181=DO",
   "LINEAR B SYLLABLE B015=MO",
   "LINEAR B SYLLABLE B016=QA",
   "LINEAR B SYLLABLE B020=ZO",
   "LINEAR B SYLLABLE B021=QI",
   "LINEAR B SYLLABLE B024=NE",
   "LINEAR B SYLLABLE B025=A2",
   "LINEAR B SYLLABLE B027=RE",
   "LINEAR B SYLLABLE B028,MENDE KIKAKUI SYLLABLE M013,MYANMAR VOWEL SIGN GEBA KAREN=I",
   "LINEAR B SYLLABLE B029=PU2",
   "LINEAR B SYLLABLE B032=QO",
   "LINEAR B SYLLABLE B033=RA3",
   "LINEAR B SYLLABLE B036,MENDE KIKAKUI SYLLABLE M063=JO",
   "LINEAR B SYLLABLE B037,MENDE KIKAKUI SYLLABLE M022=TI",
   "LINEAR B SYLLABLE B040,MENDE KIKAKUI SYLLABLE M004=WI",
   "LINEAR B SYLLABLE B041,MENDE KIKAKUI SYLLABLE M019=SI",
   "LINEAR B SYLLABLE B042,MENDE KIKAKUI SYLLABLE M045=WO",
   "LINEAR B SYLLABLE B043=A3",
   "LINEAR B SYLLABLE B044,MENDE KIKAKUI SYLLABLE M095=KE",
   "LINEAR B SYLLABLE B048=NWA",
   "LINEAR B SYLLABLE B050,MENDE KIKAKUI SYLLABLE M050=PU",
   "LINEAR B SYLLABLE B052=NO",
   "LINEAR B SYLLABLE B055=NU",
   "LINEAR B SYLLABLE B057,MENDE KIKAKUI SYLLABLE M029=JA",
   "LINEAR B SYLLABLE B059,MENDE KIKAKUI SYLLABLE M023=TA",
   "LINEAR B SYLLABLE B061,MENDE KIKAKUI SYLLABLE M147,MODIFIER LETTER SMALL BARRED=O",
   "LINEAR B SYLLABLE B062=PTE",
   "LINEAR B SYLLABLE B065,MENDE KIKAKUI SYLLABLE M030=JU",
   "LINEAR B SYLLABLE B066=TA2",
   "LINEAR B SYLLABLE B068=RO2",
   "LINEAR B SYLLABLE B070,MENDE KIKAKUI SYLLABLE M048=KO",
   "LINEAR B SYLLABLE B071=DWE",
   "LINEAR B SYLLABLE B072,MENDE KIKAKUI SYLLABLE M051,SYRIAC LETTER REVERSED=PE",
   "LINEAR B SYLLABLE B073=MI",
   "LINEAR B SYLLABLE B074=ZE",
   "LINEAR B SYLLABLE B075,MENDE KIKAKUI SYLLABLE M118=WE",
   "LINEAR B SYLLABLE B076=RA2",
   "LINEAR B SYLLABLE B078=QE",
   "LINEAR B SYLLABLE B080,THAI CHARACTER MO,TIBETAN MARK CARET YIG MGO PHUR SHAD=MA",
   "LINEAR B SYLLABLE B081,MENDE KIKAKUI SYLLABLE M003=KU",
   "LINEAR B SYLLABLE B085=AU",
   "LINEAR B SYLLABLE B087=TWE",
   "LINEAR B SYLLABLE B090=DWO",
   "LINEAR B SYMBOL=B018 B019 B022 B034 B047 B049 B056 B063 B064 B079 B082 B083 B086 B089",
   "LINKED=PAPERCLIPS",
   "LISU LETTER TONE MYA=BO CYA JEU NA TI",
   "LISU LETTER=A AE BA CA CHA DA DZA E EU FA GA GHA HA HHA I JA KA KHA LA MA NA NGA O OE PA PHA",
   "LISU LETTER=SA SHA TA THA TSA TSHA U UE UH WA XA YA YHA ZA ZHA",
   "LISU PUNCTUATION,MEDEFAIDRIN,MEDIEVAL,MODIFIER LETTER REVERSED=COMMA",
   "LOCK WITH INK,LOWER LEFT BALLPOINT,LOWER LEFT FOUNTAIN=PEN",
   "LOCKING-SHIFT=ONE ZERO",
   "LOGICAL OR WITH HORIZONTAL,PRESENTATION FORM FOR VERTICAL EM=DASH",
   "LONG LEFT RIGHT,LONG LEFT RIGHT DOUBLE,LONG LEFTWARDS,LONG LEFTWARDS DOUBLE=ARROW",
   "LONG LEFTWARDS DOUBLE ARROW FROM,LONG RIGHTWARDS ARROW FROM=BAR",
   "LONG LEFTWARDS SQUIGGLE,LONG RIGHTWARDS,LONG RIGHTWARDS DOUBLE=ARROW",
   "LONG RIGHTWARDS DOUBLE ARROW FROM,MEDIUM VERTICAL,MIAO SIGN CONSONANT MODIFIER=BAR",
   "LONG RIGHTWARDS SQUIGGLE,LOWER LEFT SEMICIRCULAR ANTICLOCKWISE=ARROW",
   "LONG=DIVISION DRUM",
   "LOTION=BOTTLE",
   "LOVE=HOTEL LETTER",
   "LOW=ASTERISK BATTERY KAVYKA LINE",
   "LOWER HALF INVERSE WHITE,MEDIUM BLACK,MEDIUM BOLD WHITE,MEDIUM SMALL WHITE=CIRCLE",
   "LOWER HALF,UPPER HALF=BLOCK CIRCLE",
   "LOWER LEFT BLOCK DIAGONAL LOWER MIDDLE LEFT TO LOWER=CENTRE RIGHT",
   "LOWER LEFT BLOCK DIAGONAL UPPER CENTRE TO LOWER MIDDLE=RIGHT",
   "LOWER LEFT BLOCK DIAGONAL UPPER CENTRE TO LOWER=RIGHT",
   "LOWER LEFT BLOCK DIAGONAL UPPER CENTRE TO UPPER MIDDLE=RIGHT",
   "LOWER LEFT BLOCK DIAGONAL UPPER LEFT TO LOWER MIDDLE=RIGHT",
   "LOWER LEFT BLOCK DIAGONAL UPPER LEFT TO LOWER=CENTRE",
   "LOWER LEFT BLOCK DIAGONAL UPPER LEFT TO UPPER MIDDLE=RIGHT",
   "LOWER LEFT BLOCK DIAGONAL UPPER MIDDLE LEFT TO LOWER MIDDLE=RIGHT",
   "LOWER LEFT BLOCK DIAGONAL UPPER MIDDLE LEFT TO LOWER=CENTRE RIGHT",
   "LOWER LEFT QUADRANT CIRCULAR,LOWER RIGHT QUADRANT CIRCULAR,RIGHT ANGLE WITH=ARC",
   "LOWER LEFT TRIANGULAR MEDIUM,LOWER RIGHT TRIANGULAR MEDIUM,RIGHT HALF MEDIUM=SHADE",
   "LOWER LEFT=CRAYON PAINTBRUSH PENCIL TRIANGLE",
   "LOWER ONE EIGHTH,LOWER ONE QUARTER,LOWER SEVEN EIGHTHS,LOWER THREE EIGHTHS=BLOCK",
   "LOWER RIGHT BLOCK DIAGONAL LOWER CENTRE TO LOWER MIDDLE=RIGHT",
   "LOWER RIGHT BLOCK DIAGONAL LOWER CENTRE TO UPPER MIDDLE=RIGHT",
   "LOWER RIGHT BLOCK DIAGONAL LOWER CENTRE TO UPPER=RIGHT",
   "LOWER RIGHT BLOCK DIAGONAL LOWER LEFT TO LOWER MIDDLE=RIGHT",
   "LOWER RIGHT BLOCK DIAGONAL LOWER LEFT TO UPPER MIDDLE=RIGHT",
   "LOWER RIGHT BLOCK DIAGONAL LOWER LEFT TO UPPER=CENTRE",
   "LOWER RIGHT BLOCK DIAGONAL LOWER MIDDLE LEFT TO UPPER MIDDLE,MIAO TONE TOP=RIGHT",
   "LOWER RIGHT BLOCK DIAGONAL LOWER MIDDLE LEFT TO UPPER=CENTRE RIGHT",
   "LOWER RIGHT BLOCK DIAGONAL UPPER MIDDLE LEFT TO UPPER=CENTRE RIGHT",
   "LOWER RIGHT DROP-SHADOWED WHITE,RIGHT ANGLE VARIANT WITH=SQUARE",
   "LOWER RIGHT SEMICIRCULAR CLOCKWISE,MODIFIER LETTER RAISED DOWN=ARROW",
   "LOWER RIGHT SHADOWED WHITE,MEDIUM WHITE,UPPER RIGHT SHADOWED WHITE=CIRCLE SQUARE",
   "LOWER RIGHT,UPPER RIGHT=PENCIL TRIANGLE",
   "LOWER THREE QUARTERS,LOWER TRIANGULAR ONE QUARTER,RIGHT AND LOWER ONE EIGHTH=BLOCK",
   "LOZENGE DIVIDED BY HORIZONTAL=RULE",
   "LYCIAN LETTER=A AN B BH D E EN G H I J K KK L M MM N NN P Q R S T TH TT U W X Z",
   "LYDIAN LETTER=A AN B C D E EN F G I K L LY M N NN O Q R S SS T TT U V Y"]

def rowsFromM : List String :=
  ["MAGIC=WAND",
   "MAHAJANI LETTER=A BA BHA CA CHA DA DDA DDHA DHA E GA GHA HA I JA JHA KA KHA LA MA NA NNA NYA",
   "MAHAJANI LETTER=O PA PHA RA RRA SA TA THA TTA TTHA U VA",
   "MAHAJANI LIGATURE=SHRI",
   "MAHAJANI SIGN=NUKTA",
   "MAHJONG TILE EIGHT OF,MAHJONG TILE FIVE OF,MAHJONG TILE FOUR OF=BAMBOOS CHARACTERS CIRCLES",
   "MAHJONG TILE GREEN,MAHJONG TILE RED,MAHJONG TILE WHITE=DRAGON",
   "MAHJONG TILE NINE OF,MAHJONG TILE ONE OF,MAHJONG TILE SEVEN OF=BAMBOOS CHARACTERS CIRCLES",
   "MAHJONG TILE NORTH,MAHJONG TILE SOUTH,MAHJONG TILE WEST=WIND",
   "MAHJONG TILE SIX OF,MAHJONG TILE THREE OF,MAHJONG TILE TWO OF=BAMBOOS CHARACTERS CIRCLES",
   "MAHJONG TILE=AUTUMN BACK BAMBOO CHRYSANTHEMUM JOKER ORCHID PLUM SPRING SUMMER WINTER",
   "MAKASAR LETTER=A BA CA DA GA JA KA LA MA NA NGA NYA PA RA SA TA VA YA",
   "MAKASAR=ANGKA PASSIMBANG",
   "MALAYALAM AU LENGTH,MALAYALAM DATE,MANDAIC AFFRICATION,MANDAIC GEMINATION=MARK",
   "MALAYALAM FRACTION ONE=EIGHTH FIFTH FORTIETH HALF ONE-HUNDRED-AND-SIXTIETH QUARTER SIXTEENTH",
   "MALAYALAM FRACTION ONE=TENTH TWENTIETH",
   "MALAYALAM FRACTION THREE=EIGHTIETHS QUARTERS SIXTEENTHS TWENTIETHS",
   "MALAYALAM LETTER ARCHAIC=II",
   "MALAYALAM LETTER CHILLU=K L LL LLL M N NN RR Y",
   "MALAYALAM LETTER DOT=REPH",
   "MALAYALAM LETTER VEDIC,NEWA LETTER VEDIC,NEWA SIGN FINAL=ANUSVARA",
   "MALAYALAM LETTER VOCALIC,MALAYALAM VOWEL SIGN VOCALIC,MODI LETTER VOCALIC=L LL R RR",
   "MALAYALAM LETTER=A AA AI AU BA BHA CA CHA DA DDA DDHA DHA E EE GA GHA HA I II JA JHA KA KHA",
   "MALAYALAM LETTER=LA LLA LLLA MA NA NGA NNA NNNA NYA O OO PA PHA RA RRA SA SHA SSA TA THA TTA",
   "MALAYALAM LETTER=TTHA TTTA U UU VA YA",
   "MALAYALAM SIGN COMBINING ANUSVARA,MINUS SIGN WITH COMMA=ABOVE",
   "MALAYALAM SIGN=ANUSVARA AVAGRAHA CANDRABINDU PARA VIRAMA VISARGA",
   "MALE AND FEMALE,MALE WITH STROKE,MALE WITH STROKE AND MALE AND FEMALE,MANAT=SIGN",
   "MAN IN BUSINESS SUIT=LEVITATING",
   "MAN IN=TUXEDO",
   "MAN WITH GUA PI=MAO",
   "MAN WITH=TURBAN",
   "MAN=DANCING",
   "MANDAIC LETTER=AB AD AG AH AIN AK AKSA AL AM AN AP AQ AR AS ASH ASZ AT ATT AZ DUSHENNA HALQA",
   "MANDAIC LETTER=IN IT KAD USHENNA",
   "MANDAIC VOCALIZATION,MARCHEN HEAD,MASU,MEDIEVAL EXCLAMATION,MEDIEVAL QUESTION=MARK",
   "MANICHAEAN LETTER=AAYIN ALEPH AYIN BETH BHETH DALETH DHAMEDH FE GHIMEL GIMEL HE HETH JAYIN",
   "MANICHAEAN LETTER=JHAYIN KAPH KHAPH LAMEDH MEM NUN PE QHOPH QOPH RESH SADHE SAMEKH SHIN",
   "MANICHAEAN LETTER=SSHIN TAW TETH THAMEDH WAW XAPH XOPH YODH ZAYIN ZHAYIN",
   "MANICHAEAN PUNCTUATION DOT WITHIN,MANICHAEAN PUNCTUATION DOUBLE DOT WITHIN=DOT",
   "MANICHAEAN PUNCTUATION LINE,NEWA GAP=FILLER",
   "MANICHAEAN PUNCTUATION TWO,MINUS SIGN WITH FALLING,MINUS SIGN WITH RISING=DOTS",
   "MANICHAEAN PUNCTUATION=DOT FLEURON STAR",
   "MANICHAEAN SIGN=UD",
   "MANUAL,MOTORIZED=WHEELCHAIR",
   "MAP SYMBOL FOR=LIGHTHOUSE",
   "MARCHEN LETTER=-A A BA CA CHA DA DZA GA HA JA KA KHA LA MA NA NGA NYA PA PHA RA SA SHA TA",
   "MARCHEN LETTER=THA TSA TSHA WA YA ZA ZHA",
   "MARCHEN MARK,PHAGS-PA MARK,PHAGS-PA MARK DOUBLE,SOYOMBO MARK DOUBLE=SHAD",
   "MARCHEN SIGN=ANUSVARA CANDRABINDU",
   "MARCHEN SUBJOINED LETTER=A BA CA CHA DA DZA GA HA JA KA KHA LA MA NA NGA NYA PA PHA RA SA",
   "MARCHEN SUBJOINED LETTER=SHA TA THA TSA TSHA WA YA ZA ZHA",
   "MARCHEN VOWEL SIGN=AA E I O U",
   "MARTIAL ARTS=UNIFORM",
   "MASARAM GONDI LETTER=A AA AI AU BA BHA CA CHA DA DDA DDHA DHA E GA GHA HA I II JA JHA JNYA",
   "MASARAM GONDI LETTER=KA KHA KSSA LA LLA MA NA NGA NNA NYA O PA PHA RA SA SHA SSA TA THA TRA",
   "MASARAM GONDI LETTER=TTA TTHA U UU VA YA",
   "MASARAM GONDI SIGN=ANUSVARA CANDRA HALANTA NUKTA VISARGA",
   "MASARAM GONDI VOWEL SIGN VOCALIC,MODIFIER LETTER SMALL CAPITAL INVERTED=R",
   "MASARAM GONDI VOWEL SIGN,MODI VOWEL SIGN,NANDINAGARI VOWEL SIGN,NEWA VOWEL SIGN=AA AI AU E I",
   "MASARAM GONDI VOWEL SIGN,MODI VOWEL SIGN,NANDINAGARI VOWEL SIGN,NEWA VOWEL SIGN=II O U UU",
   "MASARAM GONDI=RA-KARA REPHA VIRAMA",
   "MATE=DRINK",
   "MATHEMATICAL BOLD CAPITAL THETA,MATHEMATICAL BOLD EPSILON=SYMBOL",
   "MATHEMATICAL BOLD CAPITAL,MATHEMATICAL BOLD SMALL=A ALPHA B BETA C CHI D DELTA DIGAMMA E",
   "MATHEMATICAL BOLD CAPITAL,MATHEMATICAL BOLD SMALL=EPSILON ETA F G GAMMA H I IOTA J K KAPPA L",
   "MATHEMATICAL BOLD CAPITAL,MATHEMATICAL BOLD SMALL=LAMDA M MU N NU O OMEGA OMICRON P PHI PI",
   "MATHEMATICAL BOLD CAPITAL,MATHEMATICAL BOLD SMALL=PSI Q R RHO S SIGMA T TAU THETA U UPSILON",
   "MATHEMATICAL BOLD CAPITAL,MATHEMATICAL BOLD SMALL=V W X XI Y Z ZETA",
   "MATHEMATICAL BOLD DIGIT,MATHEMATICAL DOUBLE-STRUCK DIGIT=EIGHT FIVE FOUR NINE ONE SEVEN SIX",
   "MATHEMATICAL BOLD DIGIT,MATHEMATICAL DOUBLE-STRUCK DIGIT=THREE TWO ZERO",
   "MATHEMATICAL BOLD FRAKTUR CAPITAL,MATHEMATICAL BOLD FRAKTUR SMALL=A B C D E F G H I J K L M",
   "MATHEMATICAL BOLD FRAKTUR CAPITAL,MATHEMATICAL BOLD FRAKTUR SMALL=N O P Q R S T U V W X Y Z",
   "MATHEMATICAL BOLD ITALIC CAPITAL THETA,MATHEMATICAL BOLD ITALIC EPSILON=SYMBOL",
   "MATHEMATICAL BOLD ITALIC CAPITAL,MATHEMATICAL BOLD ITALIC SMALL=A ALPHA B BETA C CHI D DELTA",
   "MATHEMATICAL BOLD ITALIC CAPITAL,MATHEMATICAL BOLD ITALIC SMALL=E EPSILON ETA F G GAMMA H I",
   "MATHEMATICAL BOLD ITALIC CAPITAL,MATHEMATICAL BOLD ITALIC SMALL=IOTA J K KAPPA L LAMDA M MU",
   "MATHEMATICAL BOLD ITALIC CAPITAL,MATHEMATICAL BOLD ITALIC SMALL=N NU O OMEGA OMICRON P PHI",
   "MATHEMATICAL BOLD ITALIC CAPITAL,MATHEMATICAL BOLD ITALIC SMALL=PI PSI Q R RHO S SIGMA T TAU",
   "MATHEMATICAL BOLD ITALIC CAPITAL,MATHEMATICAL BOLD ITALIC SMALL=THETA U UPSILON V W X XI Y Z",
   "MATHEMATICAL BOLD ITALIC CAPITAL,MATHEMATICAL BOLD ITALIC SMALL=ZETA",
   "MATHEMATICAL BOLD ITALIC KAPPA,MATHEMATICAL BOLD ITALIC PHI=SYMBOL",
   "MATHEMATICAL BOLD ITALIC PARTIAL,MATHEMATICAL BOLD PARTIAL=DIFFERENTIAL",
   "MATHEMATICAL BOLD ITALIC PI,MATHEMATICAL BOLD ITALIC RHO=SYMBOL",
   "MATHEMATICAL BOLD ITALIC THETA,MATHEMATICAL BOLD KAPPA,MATHEMATICAL BOLD PHI=SYMBOL",
   "MATHEMATICAL BOLD PI,MATHEMATICAL BOLD RHO,MATHEMATICAL BOLD THETA=SYMBOL",
   "MATHEMATICAL BOLD SCRIPT CAPITAL,MATHEMATICAL BOLD SCRIPT SMALL=A B C D E F G H I J K L M N",
   "MATHEMATICAL BOLD SCRIPT CAPITAL,MATHEMATICAL BOLD SCRIPT SMALL=O P Q R S T U V W X Y Z",
   "MATHEMATICAL BOLD SMALL FINAL,MATHEMATICAL ITALIC SMALL FINAL=SIGMA",
   "MATHEMATICAL BOLD,MATHEMATICAL BOLD ITALIC,MATHEMATICAL ITALIC=NABLA",
   "MATHEMATICAL DOUBLE-STRUCK CAPITAL=A B D E F G I J K L M O S T U V W X Y",
   "MATHEMATICAL DOUBLE-STRUCK SMALL,MATHEMATICAL FRAKTUR SMALL=A B C D E F G H I J K L M N O P",
   "MATHEMATICAL DOUBLE-STRUCK SMALL,MATHEMATICAL FRAKTUR SMALL=Q R S T U V W X Y Z",
   "MATHEMATICAL FRAKTUR CAPITAL=A B D E F G J K L M N O P Q S T U V W X Y",
   "MATHEMATICAL ITALIC CAPITAL THETA,MATHEMATICAL ITALIC EPSILON=SYMBOL",
   "MATHEMATICAL ITALIC CAPITAL,MATHEMATICAL SANS-SERIF BOLD CAPITAL=A ALPHA B BETA C CHI D",
   "MATHEMATICAL ITALIC CAPITAL,MATHEMATICAL SANS-SERIF BOLD CAPITAL=DELTA E EPSILON ETA F G",
   "MATHEMATICAL ITALIC CAPITAL,MATHEMATICAL SANS-SERIF BOLD CAPITAL=GAMMA H I IOTA J K KAPPA L",
   "MATHEMATICAL ITALIC CAPITAL,MATHEMATICAL SANS-SERIF BOLD CAPITAL=LAMDA M MU N NU O OMEGA",
   "MATHEMATICAL ITALIC CAPITAL,MATHEMATICAL SANS-SERIF BOLD CAPITAL=OMICRON P PHI PI PSI Q R",
   "MATHEMATICAL ITALIC CAPITAL,MATHEMATICAL SANS-SERIF BOLD CAPITAL=RHO S SIGMA T TAU THETA U",
   "MATHEMATICAL ITALIC CAPITAL,MATHEMATICAL SANS-SERIF BOLD CAPITAL=UPSILON V W X XI Y Z ZETA",
   "MATHEMATICAL ITALIC KAPPA,MATHEMATICAL ITALIC PHI,MATHEMATICAL ITALIC PI=SYMBOL",
   "MATHEMATICAL ITALIC PARTIAL=DIFFERENTIAL",
   "MATHEMATICAL ITALIC RHO,MATHEMATICAL ITALIC THETA=SYMBOL",
   "MATHEMATICAL ITALIC SMALL=A ALPHA B BETA C CHI D DELTA E EPSILON ETA F G GAMMA I IOTA J K",
   "MATHEMATICAL ITALIC SMALL=KAPPA L LAMDA M MU N NU O OMEGA OMICRON P PHI PI PSI Q R RHO S",
   "MATHEMATICAL ITALIC SMALL=SIGMA T TAU THETA U UPSILON V W X XI Y Z ZETA",
   "MATHEMATICAL LEFT ANGLE,MATHEMATICAL LEFT DOUBLE ANGLE=BRACKET",
   "MATHEMATICAL LEFT WHITE SQUARE,MATHEMATICAL LEFT WHITE TORTOISE SHELL=BRACKET",
   "MATHEMATICAL MONOSPACE CAPITAL,MATHEMATICAL MONOSPACE SMALL=A B C D E F G H I J K L M N O P",
   "MATHEMATICAL MONOSPACE CAPITAL,MATHEMATICAL MONOSPACE SMALL=Q R S T U V W X Y Z",
   "MATHEMATICAL MONOSPACE DIGIT,MATHEMATICAL SANS-SERIF BOLD DIGIT=EIGHT FIVE FOUR NINE ONE",
   "MATHEMATICAL MONOSPACE DIGIT,MATHEMATICAL SANS-SERIF BOLD DIGIT=SEVEN SIX THREE TWO ZERO",
   "MATHEMATICAL RIGHT ANGLE,MATHEMATICAL RIGHT DOUBLE ANGLE=BRACKET",
   "MATHEMATICAL RIGHT WHITE SQUARE,MATHEMATICAL RIGHT WHITE TORTOISE SHELL=BRACKET",
   "MATHEMATICAL SANS-SERIF BOLD CAPITAL THETA=SYMBOL",
   "MATHEMATICAL SANS-SERIF BOLD EPSILON=SYMBOL",
   "MATHEMATICAL SANS-SERIF BOLD ITALIC CAPITAL THETA=SYMBOL",
   "MATHEMATICAL SANS-SERIF BOLD ITALIC CAPITAL=A ALPHA B BETA C CHI D DELTA E EPSILON ETA F G",
   "MATHEMATICAL SANS-SERIF BOLD ITALIC CAPITAL=GAMMA H I IOTA J K KAPPA L LAMDA M MU N NU O",
   "MATHEMATICAL SANS-SERIF BOLD ITALIC CAPITAL=OMEGA OMICRON P PHI PI PSI Q R RHO S SIGMA T TAU",
   "MATHEMATICAL SANS-SERIF BOLD ITALIC CAPITAL=THETA U UPSILON V W X XI Y Z ZETA",
   "MATHEMATICAL SANS-SERIF BOLD ITALIC EPSILON=SYMBOL",
   "MATHEMATICAL SANS-SERIF BOLD ITALIC KAPPA=SYMBOL",
   "MATHEMATICAL SANS-SERIF BOLD ITALIC PARTIAL=DIFFERENTIAL",
   "MATHEMATICAL SANS-SERIF BOLD ITALIC PHI=SYMBOL",
   "MATHEMATICAL SANS-SERIF BOLD ITALIC PI=SYMBOL",
   "MATHEMATICAL SANS-SERIF BOLD ITALIC RHO=SYMBOL",
   "MATHEMATICAL SANS-SERIF BOLD ITALIC SMALL FINAL=SIGMA",
   "MATHEMATICAL SANS-SERIF BOLD ITALIC SMALL,MATHEMATICAL SANS-SERIF BOLD SMALL=A ALPHA B BETA",
   "MATHEMATICAL SANS-SERIF BOLD ITALIC SMALL,MATHEMATICAL SANS-SERIF BOLD SMALL=C CHI D DELTA E",
   "MATHEMATICAL SANS-SERIF BOLD ITALIC SMALL,MATHEMATICAL SANS-SERIF BOLD SMALL=EPSILON ETA F G",
   "MATHEMATICAL SANS-SERIF BOLD ITALIC SMALL,MATHEMATICAL SANS-SERIF BOLD SMALL=GAMMA H I IOTA",
   "MATHEMATICAL SANS-SERIF BOLD ITALIC SMALL,MATHEMATICAL SANS-SERIF BOLD SMALL=J K KAPPA L",
   "MATHEMATICAL SANS-SERIF BOLD ITALIC SMALL,MATHEMATICAL SANS-SERIF BOLD SMALL=LAMDA M MU N NU",
   "MATHEMATICAL SANS-SERIF BOLD ITALIC SMALL,MATHEMATICAL SANS-SERIF BOLD SMALL=O OMEGA OMICRON",
   "MATHEMATICAL SANS-SERIF BOLD ITALIC SMALL,MATHEMATICAL SANS-SERIF BOLD SMALL=P PHI PI PSI Q",
   "MATHEMATICAL SANS-SERIF BOLD ITALIC SMALL,MATHEMATICAL SANS-SERIF BOLD SMALL=R RHO S SIGMA T",
   "MATHEMATICAL SANS-SERIF BOLD ITALIC SMALL,MATHEMATICAL SANS-SERIF BOLD SMALL=TAU THETA U",
   "MATHEMATICAL SANS-SERIF BOLD ITALIC SMALL,MATHEMATICAL SANS-SERIF BOLD SMALL=UPSILON V W X",
   "MATHEMATICAL SANS-SERIF BOLD ITALIC SMALL,MATHEMATICAL SANS-SERIF BOLD SMALL=XI Y Z ZETA",
   "MATHEMATICAL SANS-SERIF BOLD ITALIC THETA,MATHEMATICAL SANS-SERIF BOLD KAPPA=SYMBOL",
   "MATHEMATICAL SANS-SERIF BOLD PARTIAL,PARTIAL=DIFFERENTIAL",
   "MATHEMATICAL SANS-SERIF BOLD PHI,MATHEMATICAL SANS-SERIF BOLD PI=SYMBOL",
   "MATHEMATICAL SANS-SERIF BOLD RHO,MATHEMATICAL SANS-SERIF BOLD THETA,MENS=SYMBOL",
   "MATHEMATICAL SANS-SERIF BOLD SMALL FINAL=SIGMA",
   "MATHEMATICAL SANS-SERIF BOLD,MATHEMATICAL SANS-SERIF BOLD ITALIC=NABLA",
   "MATHEMATICAL SANS-SERIF CAPITAL,MATHEMATICAL SANS-SERIF ITALIC CAPITAL=A B C D E F G H I J K",
   "MATHEMATICAL SANS-SERIF CAPITAL,MATHEMATICAL SANS-SERIF ITALIC CAPITAL=L M N O P Q R S T U V",
   "MATHEMATICAL SANS-SERIF CAPITAL,MATHEMATICAL SANS-SERIF ITALIC CAPITAL=W X Y Z",
   "MATHEMATICAL SANS-SERIF DIGIT,MEDEFAIDRIN DIGIT,MEETEI MAYEK DIGIT,MODI DIGIT=EIGHT FIVE",
   "MATHEMATICAL SANS-SERIF DIGIT,MEDEFAIDRIN DIGIT,MEETEI MAYEK DIGIT,MODI DIGIT=FOUR NINE ONE",
   "MATHEMATICAL SANS-SERIF DIGIT,MEDEFAIDRIN DIGIT,MEETEI MAYEK DIGIT,MODI DIGIT=SEVEN SIX",
   "MATHEMATICAL SANS-SERIF DIGIT,MEDEFAIDRIN DIGIT,MEETEI MAYEK DIGIT,MODI DIGIT=THREE TWO ZERO",
   "MATHEMATICAL SANS-SERIF ITALIC SMALL,MATHEMATICAL SANS-SERIF SMALL=A B C D E F G H I J K L M",
   "MATHEMATICAL SANS-SERIF ITALIC SMALL,MATHEMATICAL SANS-SERIF SMALL=N O P Q R S T U V W X Y Z",
   "MATHEMATICAL SCRIPT CAPITAL=A C D G J K N O P Q S T U V W X Y Z",
   "MATHEMATICAL SCRIPT SMALL=A B C D F H I J K L M N P Q R S T U V W X Y Z",
   "MAYAN NUMERAL=EIGHT EIGHTEEN ELEVEN FIFTEEN FIVE FOUR FOURTEEN NINE NINETEEN ONE SEVEN",
   "MAYAN NUMERAL=SEVENTEEN SIX SIXTEEN TEN THIRTEEN THREE TWELVE TWO ZERO",
   "MEASURED ANGLE WITH OPEN ARM ENDING IN ARROW POINTING DOWN AND=LEFT RIGHT",
   "MEASURED ANGLE WITH OPEN ARM ENDING IN ARROW POINTING LEFT AND=DOWN UP",
   "MEASURED ANGLE WITH OPEN ARM ENDING IN ARROW POINTING RIGHT AND=DOWN UP",
   "MEASURED ANGLE WITH OPEN ARM ENDING IN ARROW POINTING UP AND,NEWLINE=LEFT RIGHT",
   "MEASURED RIGHT ANGLE WITH,MIDDLE,MUSICAL SYMBOL COMBINING AUGMENTATION=DOT",
   "MEASURED=ANGLE BY",
   "MEAT ON=BONE",
   "MECHANICAL=ARM LEG",
   "MEDEFAIDRIN CAPITAL LETTER,MEDEFAIDRIN SMALL LETTER=A AI ATIU B C D E F G H HP I J K KP L M",
   "MEDEFAIDRIN CAPITAL LETTER,MEDEFAIDRIN SMALL LETTER=N NG NY O OE P Q R S T U V W X Y YU Z",
   "MEDEFAIDRIN DIGIT ONE ALTERNATE,MEDEFAIDRIN DIGIT THREE ALTERNATE=FORM",
   "MEDEFAIDRIN DIGIT TWO ALTERNATE,ROMAN NUMERAL FIFTY EARLY=FORM",
   "MEDEFAIDRIN EXCLAMATION=OH",
   "MEDEFAIDRIN NUMBER=EIGHTEEN ELEVEN FIFTEEN FOURTEEN NINETEEN SEVENTEEN SIXTEEN TEN THIRTEEN",
   "MEDEFAIDRIN NUMBER=TWELVE",
   "MEDEFAIDRIN SYMBOL=AIVA",
   "MEDIUM EIGHT POINTED BLACK,MEDIUM FOUR POINTED BLACK=STAR",
   "MEDIUM FLATTENED RIGHT PARENTHESIS,MEDIUM LEFT CURLY BRACKET=ORNAMENT",
   "MEDIUM FOUR POINTED PINWHEEL,MEDIUM SIX POINTED BLACK=STAR",
   "MEDIUM LEFT PARENTHESIS,MEDIUM LEFT-POINTING ANGLE BRACKET=ORNAMENT",
   "MEDIUM RIGHT CURLY BRACKET,MEDIUM RIGHT PARENTHESIS=ORNAMENT",
   "MEDIUM RIGHT-POINTING ANGLE BRACKET,MONGOLIAN BIRGA WITH=ORNAMENT",
   "MEDIUM THREE POINTED BLACK,MEDIUM THREE POINTED PINWHEEL,OPEN CENTRE BLACK=STAR",
   "MEDIUM=SALTIRE SHADE",
   "MEETEI MAYEK AHANG=KHUDAM",
   "MEETEI MAYEK APUN,MEETEI MAYEK LUM=IYEK",
   "MEETEI MAYEK LETTER I,MEETEI MAYEK LETTER KOK,MEETEI MAYEK LETTER LAI=LONSUM",
   "MEETEI MAYEK LETTER MIT,MEETEI MAYEK LETTER NA,MEETEI MAYEK LETTER NGOU=LONSUM",
   "MEETEI MAYEK LETTER PA,MEETEI MAYEK LETTER TIL=LONSUM",
   "MEETEI MAYEK LETTER=ATIYA BA BHAM CHA CHIL DDA DDHA DHOU DIL E GHOU GOK HUK I JHAM JIL KHOU",
   "MEETEI MAYEK LETTER=KOK LAI MIT NA NGOU NNA NYA O PA PHAM RAI SAM SHA SSA THOU TIL TTA TTHA",
   "MEETEI MAYEK LETTER=UN WAI YANG",
   "MEETEI MAYEK SYLLABLE REPETITION,MEETEI MAYEK WORD REPETITION=MARK",
   "MEETEI MAYEK VOWEL SIGN=AAI AAU ANAP AU CHEINAP II INAP NUNG ONAP SOUNAP UNAP UU VISARGA",
   "MEETEI MAYEK VOWEL SIGN=YENAP",
   "MEETEI MAYEK=ANJI CHEIKHAN CHEIKHEI VIRAMA",
   "MENDE KIKAKUI COMBINING NUMBER HUNDRED,MENDE KIKAKUI COMBINING NUMBER TEN=THOUSANDS",
   "MENDE KIKAKUI COMBINING NUMBER=HUNDREDS MILLIONS TEENS TENS THOUSANDS",
   "MENDE KIKAKUI SYLLABLE M001=KI",
   "MENDE KIKAKUI SYLLABLE M002=KA",
   "MENDE KIKAKUI SYLLABLE M006=WU",
   "MENDE KIKAKUI SYLLABLE M007=MIN",
   "MENDE KIKAKUI SYLLABLE M009=MUN",
   "MENDE KIKAKUI SYLLABLE M011=BA",
   "MENDE KIKAKUI SYLLABLE M012,TIBETAN SYMBOL DRIL,TIBETAN SYMBOL NOR=BU",
   "MENDE KIKAKUI SYLLABLE M015,MODIFIER LETTER SMALL SIDEWAYS,RUNIC LETTER URUZ UR=U",
   "MENDE KIKAKUI SYLLABLE M016=DI",
   "MENDE KIKAKUI SYLLABLE M018=DU",
   "MENDE KIKAKUI SYLLABLE M020,MEROITIC CURSIVE LETTER ARCHAIC,MYANMAR LETTER GREAT=SA",
   "MENDE KIKAKUI SYLLABLE M021=SU",
   "MENDE KIKAKUI SYLLABLE M026=LA",
   "MENDE KIKAKUI SYLLABLE M028=JI",
   "MENDE KIKAKUI SYLLABLE M031=YI",
   "MENDE KIKAKUI SYLLABLE M033=YU",
   "MENDE KIKAKUI SYLLABLE M034=FI",
   "MENDE KIKAKUI SYLLABLE M035,MYANMAR LETTER RUMAI PALAUNG=FA",
   "MENDE KIKAKUI SYLLABLE M036=FU",
   "MENDE KIKAKUI SYLLABLE M037=NIN",
   "MENDE KIKAKUI SYLLABLE M038=NAN",
   "MENDE KIKAKUI SYLLABLE M040=HEE",
   "MENDE KIKAKUI SYLLABLE M041,PHAGS-PA LETTER VOICED=HA",
   "MENDE KIKAKUI SYLLABLE M042=HOO",
   "MENDE KIKAKUI SYLLABLE M043=NGGA",
   "MENDE KIKAKUI SYLLABLE M044=KPEE",
   "MENDE KIKAKUI SYLLABLE M046=HUAN",
   "MENDE KIKAKUI SYLLABLE M047,MENDE KIKAKUI SYLLABLE M188=MBEE",
   "MENDE KIKAKUI SYLLABLE M049=WVA",
   "MENDE KIKAKUI SYLLABLE M052=HEN",
   "MENDE KIKAKUI SYLLABLE M053=HIN",
   "MENDE KIKAKUI SYLLABLE M054=LOO",
   "MENDE KIKAKUI SYLLABLE M055=TE",
   "MENDE KIKAKUI SYLLABLE M056=GBA",
   "MENDE KIKAKUI SYLLABLE M057=NGON",
   "MENDE KIKAKUI SYLLABLE M058=NYAN",
   "MENDE KIKAKUI SYLLABLE M060=NYON",
   "MENDE KIKAKUI SYLLABLE M061=WVI",
   "MENDE KIKAKUI SYLLABLE M062=MBA",
   "MENDE KIKAKUI SYLLABLE M064=NDO",
   "MENDE KIKAKUI SYLLABLE M065=KEE",
   "MENDE KIKAKUI SYLLABLE M067=NDOO",
   "MENDE KIKAKUI SYLLABLE M069,NEITHER A SUBSET OF NOR EQUAL=TO",
   "MENDE KIKAKUI SYLLABLE M070=GBO",
   "MENDE KIKAKUI SYLLABLE M071=GBOO",
   "MENDE KIKAKUI SYLLABLE M072,MENDE KIKAKUI SYLLABLE M161 LONG=MBE",
   "MENDE KIKAKUI SYLLABLE M073,MENDE KIKAKUI SYLLABLE M110 LONG=LE",
   "MENDE KIKAKUI SYLLABLE M074=KPU",
   "MENDE KIKAKUI SYLLABLE M075=FE",
   "MENDE KIKAKUI SYLLABLE M076=KOO",
   "MENDE KIKAKUI SYLLABLE M077=VO",
   "MENDE KIKAKUI SYLLABLE M078=FEE",
   "MENDE KIKAKUI SYLLABLE M080=YE",
   "MENDE KIKAKUI SYLLABLE M081=PEE",
   "MENDE KIKAKUI SYLLABLE M082=NGGU",
   "MENDE KIKAKUI SYLLABLE M083=HEEI",
   "MENDE KIKAKUI SYLLABLE M084=LEE",
   "MENDE KIKAKUI SYLLABLE M086 LONG,MENDE KIKAKUI SYLLABLE M146=NGGE",
   "MENDE KIKAKUI SYLLABLE M087=HUN",
   "MENDE KIKAKUI SYLLABLE M088=FO",
   "MENDE KIKAKUI SYLLABLE M089=DEE",
   "MENDE KIKAKUI SYLLABLE M090=NGGI",
   "MENDE KIKAKUI SYLLABLE M091=TEE",
   "MENDE KIKAKUI SYLLABLE M092=KPA",
   "MENDE KIKAKUI SYLLABLE M093=GBEE",
   "MENDE KIKAKUI SYLLABLE M094=MON",
   "MENDE KIKAKUI SYLLABLE M096,SYRIAC LETTER YUDH=HE",
   "MENDE KIKAKUI SYLLABLE M097=BE",
   "MENDE KIKAKUI SYLLABLE M098=NYEN",
   "MENDE KIKAKUI SYLLABLE M099,TAI THAM CONSONANT SIGN HIGH RATHA OR LOW=PA",
   "MENDE KIKAKUI SYLLABLE M101=FAN",
   "MENDE KIKAKUI SYLLABLE M102,PILE OF=POO",
   "MENDE KIKAKUI SYLLABLE M103=BOO",
   "MENDE KIKAKUI SYLLABLE M105 LONG,MENDE KIKAKUI SYLLABLE M172=MBOO",
   "MENDE KIKAKUI SYLLABLE M106 LONG,MENDE KIKAKUI SYLLABLE M156=NGGOO",
   "MENDE KIKAKUI SYLLABLE M107=GBE",
   "MENDE KIKAKUI SYLLABLE M108=KPE",
   "MENDE KIKAKUI SYLLABLE M109=YEE",
   "MENDE KIKAKUI SYLLABLE M111=GA",
   "MENDE KIKAKUI SYLLABLE M112=KPOO",
   "MENDE KIKAKUI SYLLABLE M114=WOO",
   "MENDE KIKAKUI SYLLABLE M115=NGGEE",
   "MENDE KIKAKUI SYLLABLE M117=NEN",
   "MENDE KIKAKUI SYLLABLE M119=NDE",
   "MENDE KIKAKUI SYLLABLE M120,MENDE KIKAKUI SYLLABLE M183 LONG=NGGO",
   "MENDE KIKAKUI SYLLABLE M121=YO",
   "MENDE KIKAKUI SYLLABLE M123=NDI",
   "MENDE KIKAKUI SYLLABLE M124=GBI",
   "MENDE KIKAKUI SYLLABLE M125=NDU",
   "MENDE KIKAKUI SYLLABLE M126=WEE",
   "MENDE KIKAKUI SYLLABLE M127=NGGUA",
   "MENDE KIKAKUI SYLLABLE M128=HOOU",
   "MENDE KIKAKUI SYLLABLE M129=NDA",
   "MENDE KIKAKUI SYLLABLE M130=HAN",
   "MENDE KIKAKUI SYLLABLE M131,MENDE KIKAKUI SYLLABLE M135,SIGNWRITING AIR SUCKING=IN",
   "MENDE KIKAKUI SYLLABLE M132=KPI",
   "MENDE KIKAKUI SYLLABLE M133=FOO",
   "MENDE KIKAKUI SYLLABLE M134=NJOO",
   "MENDE KIKAKUI SYLLABLE M136=SOO",
   "MENDE KIKAKUI SYLLABLE M137=EI",
   "MENDE KIKAKUI SYLLABLE M138=BO",
   "MENDE KIKAKUI SYLLABLE M139=WVE",
   "MENDE KIKAKUI SYLLABLE M140=HO",
   "MENDE KIKAKUI SYLLABLE M141=YOO",
   "MENDE KIKAKUI SYLLABLE M142 LONG,MENDE KIKAKUI SYLLABLE M174=MBO",
   "MENDE KIKAKUI SYLLABLE M143=WEI",
   "MENDE KIKAKUI SYLLABLE M144=VOO",
   "MENDE KIKAKUI SYLLABLE M145=MBI",
   "MENDE KIKAKUI SYLLABLE M148=GBU",
   "MENDE KIKAKUI SYLLABLE M149=NJEE",
   "MENDE KIKAKUI SYLLABLE M150=BEE",
   "MENDE KIKAKUI SYLLABLE M151=VU",
   "MENDE KIKAKUI SYLLABLE M152=NJA",
   "MENDE KIKAKUI SYLLABLE M153=LO",
   "MENDE KIKAKUI SYLLABLE M157=JEE",
   "MENDE KIKAKUI SYLLABLE M158=KPO",
   "MENDE KIKAKUI SYLLABLE M159=NGGAA",
   "MENDE KIKAKUI SYLLABLE M160=JOO",
   "MENDE KIKAKUI SYLLABLE M162=SEE",
   "MENDE KIKAKUI SYLLABLE M163=EE",
   "MENDE KIKAKUI SYLLABLE M164=NYIN",
   "MENDE KIKAKUI SYLLABLE M165=OO",
   "MENDE KIKAKUI SYLLABLE M166=GUEI",
   "MENDE KIKAKUI SYLLABLE M167=GUAN",
   "MENDE KIKAKUI SYLLABLE M169=NON",
   "MENDE KIKAKUI SYLLABLE M170=NYUN",
   "MENDE KIKAKUI SYLLABLE M171,MYANMAR LETTER AITON,PHAGS-PA SUPERFIXED LETTER=RA",
   "MENDE KIKAKUI SYLLABLE M173=VEE",
   "MENDE KIKAKUI SYLLABLE M175 LONG=JO",
   "MENDE KIKAKUI SYLLABLE M176=HI",
   "MENDE KIKAKUI SYLLABLE M177=NGUAN",
   "MENDE KIKAKUI SYLLABLE M178,MODIFIER LETTER CYRILLIC=EN",
   "MENDE KIKAKUI SYLLABLE M179=KUA",
   "MENDE KIKAKUI SYLLABLE M180=DOO",
   "MENDE KIKAKUI SYLLABLE M184=NGEN",
   "MENDE KIKAKUI SYLLABLE M185=VA",
   "MENDE KIKAKUI SYLLABLE M187=MBUU",
   "MENDE KIKAKUI SYLLABLE M189=MUEN",
   "MENDE KIKAKUI SYLLABLE M191=NDEE",
   "MENDE KIKAKUI SYLLABLE M192=NJU",
   "MENDE KIKAKUI SYLLABLE M193=HON",
   "MENDE KIKAKUI SYLLABLE M194=WUI",
   "MENDE KIKAKUI SYLLABLE M195=AN",
   "MENDE KIKAKUI SYLLABLE M196=SIA",
   "MENDE KIKAKUI SYLLABLE M197=FUA",
   "MENORAH WITH NINE=BRANCHES",
   "MEROITIC CURSIVE FRACTION EIGHT,MEROITIC CURSIVE FRACTION ELEVEN=TWELFTHS",
   "MEROITIC CURSIVE FRACTION FIVE,MEROITIC CURSIVE FRACTION FOUR=TWELFTHS",
   "MEROITIC CURSIVE FRACTION NINE,MEROITIC CURSIVE FRACTION SEVEN=TWELFTHS",
   "MEROITIC CURSIVE FRACTION ONE=HALF TWELFTH",
   "MEROITIC CURSIVE FRACTION SIX,MEROITIC CURSIVE FRACTION TEN=TWELFTHS",
   "MEROITIC CURSIVE FRACTION THREE,MEROITIC CURSIVE FRACTION TWO=TWELFTHS",
   "MEROITIC CURSIVE LETTER=A BA DA E HHA I KA KHA LA MA NA NE O PA QA RA SA SE TA TE TO WA YA",
   "MEROITIC CURSIVE LOGOGRAM=IMN RMT",
   "MEROITIC CURSIVE NUMBER EIGHTY,MEROITIC CURSIVE NUMBER FIFTY=THOUSAND",
   "MEROITIC CURSIVE NUMBER FIVE HUNDRED,MEROITIC CURSIVE NUMBER FORTY=THOUSAND",
   "MEROITIC CURSIVE NUMBER FIVE,MEROITIC CURSIVE NUMBER FOUR=HUNDRED THOUSAND",
   "MEROITIC CURSIVE NUMBER FOUR HUNDRED,MEROITIC CURSIVE NUMBER NINE HUNDRED=THOUSAND",
   "MEROITIC CURSIVE NUMBER NINE,MEROITIC CURSIVE NUMBER ONE=HUNDRED THOUSAND",
   "MEROITIC CURSIVE NUMBER NINETY,MEROITIC CURSIVE NUMBER ONE HUNDRED=THOUSAND",
   "MEROITIC CURSIVE NUMBER SEVEN HUNDRED,MEROITIC CURSIVE NUMBER SEVENTY=THOUSAND",
   "MEROITIC CURSIVE NUMBER SEVEN,MEROITIC CURSIVE NUMBER SIX=HUNDRED THOUSAND",
   "MEROITIC CURSIVE NUMBER SIX HUNDRED,MEROITIC CURSIVE NUMBER SIXTY=THOUSAND",
   "MEROITIC CURSIVE NUMBER TEN,MEROITIC CURSIVE NUMBER THIRTY=THOUSAND",
   "MEROITIC CURSIVE NUMBER THREE HUNDRED,MEROITIC CURSIVE NUMBER TWENTY=THOUSAND",
   "MEROITIC CURSIVE NUMBER THREE,MEROITIC CURSIVE NUMBER TWO=HUNDRED THOUSAND",
   "MEROITIC CURSIVE NUMBER TWO HUNDRED,OTTOMAN SIYAQ ALTERNATE NUMBER TEN=THOUSAND",
   "MEROITIC CURSIVE NUMBER=EIGHT FIFTY FIVE FORTY FOUR NINE ONE SEVEN SEVENTY SIX SIXTY TEN",
   "MEROITIC CURSIVE NUMBER=THIRTY THREE TWENTY TWO",
   "MEROITIC HIEROGLYPHIC LETTER=A BA BA-2 DA E HHA I KA KHA LA MA NA NA-2 NE NE-2 O PA QA RA",
   "MEROITIC HIEROGLYPHIC LETTER=RA-2 SA SA-2 SE TA TA-2 TE TE-2 TO WA YA",
   "MEROITIC HIEROGLYPHIC SYMBOL=VIDJ VIDJ-2",
   "MESSAGE=WAITING",
   "METRICAL LONG OVER TWO=SHORTS",
   "METRICAL LONG OVER=SHORT",
   "METRICAL SHORT OVER,METRICAL TWO SHORTS OVER=LONG",
   "METRICAL TWO SHORTS=JOINED",
   "METRICAL=BREVE PENTASEME TETRASEME TRISEME",
   "MIAO LETTER ARCHAIC=MA NA NGA ZZA",
   "MIAO LETTER REFORMED=TONE-1 TONE-2 TONE-4 TONE-5 TONE-6 TONE-8 TSHA",
   "MIAO LETTER YI=DZHA KA NNA PA TA TSA TSHA TTA",
   "MIAO LETTER=AH BA BRI DA DDA DLHA DLHYA DZA DZHA DZYI DZZA FA GA GHA GHHA HA HHA KA LA LHA",
   "MIAO LETTER=LHYA LYA MA MHA NA NASALIZATION NGA NGHA NHA NNA NNHA NYA NYHA PA PLA QA QGA RTE",
   "MIAO LETTER=SA SHA SSA SYI TA TE TLHA TLHYA TONE-2 TONE-3 TONE-4 TONE-5 TONE-6 TONE-7 TONE-8",
   "MIAO LETTER=TSA TSE TSHA TSSA TTA VA VFA WA XA ZA ZHA ZSA ZSHA ZZA ZZSA ZZSYA ZZYA",
   "MIAO SIGN REFORMED=ASPIRATION VOICING",
   "MIAO SIGN=ASPIRATION",
   "MIAO TONE=ABOVE BELOW RIGHT",
   "MIAO VOWEL SIGN ROUNDED=ER ERR",
   "MIAO VOWEL SIGN=A AA AE AEE AHH AI AN ANG AU E EA EI EN ENG ER ERR I IA IAN IANG IE IG II",
   "MIAO VOWEL SIGN=ING IO IONG IU N NG O OER OEY OG OO OU U UA UAN UANG UEI UI UNG UOG UU VW W",
   "MIAO VOWEL SIGN=WO Y YI YUI",
   "MICR DASH,MICR ON US,MONOSTABLE,NEW MOON,NO ONE UNDER EIGHTEEN,NO SMOKING=SYMBOL",
   "MICRO,MILL,MINUS-OR-PLUS,MODI ABBREVIATION,MODIFIER LETTER CYRILLIC HARD=SIGN",
   "MILITARY=HELMET MEDAL",
   "MILKY=WAY",
   "MINUS=SIGN TILDE",
   "MIRROR,SOCCER,TABLE TENNIS PADDLE AND,TENNIS RACQUET AND=BALL",
   "MOBILE PHONE WITH RIGHTWARDS ARROW AT,QUADRANT UPPER RIGHT AND LOWER=LEFT",
   "MOBILE PHONE=OFF",
   "MODERN=PENTATHLON",
   "MODI SIGN=ANUSVARA ARDHACANDRA HUVA VIRAMA VISARGA",
   "MODI VOWEL SIGN VOCALIC,MYANMAR LETTER VOCALIC,MYANMAR VOWEL SIGN VOCALIC=L LL R RR",
   "MODIFIER BREVE WITH INVERTED=BREVE",
   "MODIFIER LETTER ACUTE,MODIFIER LETTER CIRCUMFLEX,MODIFIER LETTER CROSS=ACCENT",
   "MODIFIER LETTER BEGIN LOW,MODIFIER LETTER END HIGH,MODIFIER LETTER END LOW=TONE",
   "MODIFIER LETTER CAPITAL BARRED,MUSICAL SYMBOL SQUARE=B",
   "MODIFIER LETTER CAPITAL REVERSED=E N",
   "MODIFIER LETTER CAPITAL=A AE B C D E F G H I J K L M N O OU P Q R T U V W",
   "MODIFIER LETTER CENTRED RIGHT HALF,MODIFIER LETTER LEFT HALF=RING",
   "MODIFIER LETTER CHINESE TONE YANG,MODIFIER LETTER CHINESE TONE YIN=PING QU RU SHANG",
   "MODIFIER LETTER CYRILLIC SOFT,MODIFIER LETTER MINUS,MODIFIER LETTER PLUS=SIGN",
   "MODIFIER LETTER DENTAL,MODIFIER LETTER LATERAL=CLICK",
   "MODIFIER LETTER DOT HORIZONTAL,MODIFIER LETTER DOT VERTICAL=BAR",
   "MODIFIER LETTER DOUBLE=APOSTROPHE PRIME",
   "MODIFIER LETTER EXTRA-HIGH DOTTED LEFT-STEM TONE=BAR",
   "MODIFIER LETTER EXTRA-HIGH DOTTED TONE=BAR",
   "MODIFIER LETTER EXTRA-HIGH LEFT-STEM TONE,MODIFIER LETTER EXTRA-HIGH TONE=BAR",
   "MODIFIER LETTER EXTRA-LOW DOTTED LEFT-STEM TONE=BAR",
   "MODIFIER LETTER EXTRA-LOW DOTTED TONE,MODIFIER LETTER EXTRA-LOW LEFT-STEM TONE=BAR",
   "MODIFIER LETTER EXTRA-LOW TONE,MODIFIER LETTER HIGH DOTTED LEFT-STEM TONE=BAR",
   "MODIFIER LETTER GEORGIAN=NAR",
   "MODIFIER LETTER GLOTTAL STOP WITH,MODIFIER LETTER REVERSED GLOTTAL STOP WITH=STROKE",
   "MODIFIER LETTER GLOTTAL,MODIFIER LETTER REVERSED GLOTTAL=STOP",
   "MODIFIER LETTER GRAVE,MODIFIER LETTER LOW ACUTE=ACCENT",
   "MODIFIER LETTER HALF TRIANGULAR,MODIFIER LETTER RAISED=COLON",
   "MODIFIER LETTER HIGH DOTTED TONE,MODIFIER LETTER HIGH LEFT-STEM TONE=BAR",
   "MODIFIER LETTER HIGH TONE,MODIFIER LETTER LOW DOTTED LEFT-STEM TONE=BAR",
   "MODIFIER LETTER LOW CIRCUMFLEX,MODIFIER LETTER LOW GRAVE=ACCENT",
   "MODIFIER LETTER LOW DOTTED TONE,MODIFIER LETTER LOW LEFT-STEM TONE=BAR",
   "MODIFIER LETTER LOW INVERTED EXCLAMATION,MODIFIER LETTER RAISED EXCLAMATION=MARK",
   "MODIFIER LETTER LOW LEFT=ARROW ARROWHEAD",
   "MODIFIER LETTER LOW RIGHT,MODIFIER LETTER LOW UP=ARROWHEAD",
   "MODIFIER LETTER LOW TONE,MODIFIER LETTER MID DOTTED LEFT-STEM TONE=BAR",
   "MODIFIER LETTER LOW VERTICAL,MODIFIER LETTER VERTICAL,NEW=LINE",
   "MODIFIER LETTER LOW=MACRON RING TILDE",
   "MODIFIER LETTER MID DOTTED TONE,MODIFIER LETTER MID LEFT-STEM TONE=BAR",
   "MODIFIER LETTER MID TONE,MODIFIER LETTER SMALL U,N-ARY WHITE VERTICAL=BAR",
   "MODIFIER LETTER MIDDLE DOUBLE ACUTE,MODIFIER LETTER MIDDLE DOUBLE GRAVE=ACCENT",
   "MODIFIER LETTER MIDDLE GRAVE,TAG CIRCUMFLEX,TAG GRAVE=ACCENT",
   "MODIFIER LETTER OPEN=SHELF",
   "MODIFIER LETTER RAISED INVERTED EXCLAMATION=MARK",
   "MODIFIER LETTER RAISED UP,NORTH EAST,NORTH EAST AND SOUTH WEST=ARROW",
   "MODIFIER LETTER RHOTIC,MODIFIER LETTER SMALL B WITH=HOOK",
   "MODIFIER LETTER RIGHT HALF,SIDDHAM SECTION MARK DOUBLE=RING",
   "MODIFIER LETTER SHORT EQUALS,MONGOLIAN LETTER TODO LONG VOWEL,MUSIC FLAT=SIGN",
   "MODIFIER LETTER SMALL BOTTOM HALF,MODIFIER LETTER SMALL TOP HALF=O",
   "MODIFIER LETTER SMALL C WITH,MODIFIER LETTER SMALL DZ DIGRAPH WITH=CURL",
   "MODIFIER LETTER SMALL CAPITAL G WITH=HOOK",
   "MODIFIER LETTER SMALL CAPITAL I WITH,MODIFIER LETTER SMALL DOTLESS J WITH=STROKE",
   "MODIFIER LETTER SMALL CAPITAL L WITH,MODIFIER LETTER SMALL L WITH=BELT",
   "MODIFIER LETTER SMALL CAPITAL=AA B G H I L N OE R U Y",
   "MODIFIER LETTER SMALL CLOSED REVERSED OPEN,MODIFIER LETTER SMALL REVERSED=E",
   "MODIFIER LETTER SMALL DEZH,MODIFIER LETTER SMALL DZ=DIGRAPH",
   "MODIFIER LETTER SMALL DOTLESS J WITH STROKE AND=HOOK",
   "MODIFIER LETTER SMALL DZ DIGRAPH WITH RETROFLEX,MODIFIER LETTER SMALL G WITH=HOOK",
   "MODIFIER LETTER SMALL FENG,MODIFIER LETTER SMALL LS=DIGRAPH",
   "MODIFIER LETTER SMALL GREEK=GAMMA PHI",
   "MODIFIER LETTER SMALL H WITH=HOOK STROKE",
   "MODIFIER LETTER SMALL HENG WITH,MODIFIER LETTER SMALL L WITH PALATAL=HOOK",
   "MODIFIER LETTER SMALL I WITH,MODIFIER LETTER SMALL O WITH=STROKE",
   "MODIFIER LETTER SMALL L WITH RETROFLEX HOOK AND=BELT",
   "MODIFIER LETTER SMALL L WITH RETROFLEX=HOOK",
   "MODIFIER LETTER SMALL LEZH WITH RETROFLEX,MODIFIER LETTER SMALL M WITH=HOOK",
   "MODIFIER LETTER SMALL LIGATURE=OE",
   "MODIFIER LETTER SMALL LZ,MODIFIER LETTER SMALL TESH=DIGRAPH",
   "MODIFIER LETTER SMALL N WITH LEFT,MODIFIER LETTER SMALL N WITH RETROFLEX=HOOK",
   "MODIFIER LETTER SMALL R WITH=FISHHOOK TAIL",
   "MODIFIER LETTER SMALL REVERSED GLOTTAL,MONGOLIAN FULL,MONGOLIAN MANCHU FULL=STOP",
   "MODIFIER LETTER SMALL REVERSED OPEN,MODIFIER LETTER SMALL TURNED OPEN=E",
   "MODIFIER LETTER SMALL S WITH=CURL HOOK",
   "MODIFIER LETTER SMALL SCRIPT,RUNIC LETTER GEBO GYFU=G",
   "MODIFIER LETTER SMALL T WITH PALATAL,MODIFIER LETTER SMALL T WITH RETROFLEX=HOOK",
   "MODIFIER LETTER SMALL TC DIGRAPH WITH,MODIFIER LETTER SMALL Z WITH,PAGE WITH=CURL",
   "MODIFIER LETTER SMALL TS DIGRAPH WITH RETROFLEX=HOOK",
   "MODIFIER LETTER SMALL TS=DIGRAPH",
   "MODIFIER LETTER SMALL TURNED M WITH LONG=LEG",
   "MODIFIER LETTER SMALL TURNED R WITH LONG LEG AND RETROFLEX=HOOK",
   "MODIFIER LETTER SMALL TURNED R WITH LONG,PHAISTOS DISC SIGN BULLS,POULTRY=LEG",
   "MODIFIER LETTER SMALL TURNED R WITH=HOOK",
   "MODIFIER LETTER SMALL TURNED Y WITH=BELT",
   "MODIFIER LETTER SMALL TURNED=A AE ALPHA H I M R V W Y",
   "MODIFIER LETTER SMALL U WITH LEFT,MODIFIER LETTER SMALL V WITH=HOOK",
   "MODIFIER LETTER SMALL V WITH RIGHT,MODIFIER LETTER SMALL Z WITH RETROFLEX=HOOK",
   "MODIFIER LETTER SMALL=A AE AIN ALPHA B BETA C CHI D DELTA E ENG ESH ETH EZH F G GAMMA H HENG",
   "MODIFIER LETTER SMALL=IOTA J K L LEZH M O P PHI Q R S SCHWA T THETA U UPSILON V W X Y Z",
   "MODIFIER LETTER STRESS AND HIGH,MODIFIER LETTER STRESS AND LOW=TONE",
   "MODIFIER LETTER SUPERSCRIPT HALF TRIANGULAR=COLON",
   "MODIFIER LETTER SUPERSCRIPT TRIANGULAR,MODIFIER LETTER TRIANGULAR=COLON",
   "MODIFIER LETTER TURNED,MONGOLIAN MANCHU=COMMA",
   "MODIFIER LETTER UP,UP=ARROWHEAD TACK",
   "MODIFIER LETTER YANG DEPARTING TONE,MODIFIER LETTER YIN DEPARTING TONE=MARK",
   "MODIFIER LETTER=APOSTROPHE COLON MACRON PRIME SHELF UNASPIRATED US VOICING",
   "MODULO TWO=SUM",
   "MONEY WITH=WINGS",
   "MONEY-MOUTH,MONKEY,NAUSEATED,NERD,NEUTRAL,NEW MOON WITH,OVERHEATED,PANDA=FACE",
   "MONEY=BAG",
   "MONGOLIAN BIRGA WITH DOUBLE,MONGOLIAN DOUBLE BIRGA WITH=ORNAMENT",
   "MONGOLIAN DIGIT,MRO DIGIT,MYANMAR DIGIT,MYANMAR SHAN DIGIT=EIGHT FIVE FOUR NINE ONE SEVEN",
   "MONGOLIAN DIGIT,MRO DIGIT,MYANMAR DIGIT,MYANMAR SHAN DIGIT=SIX THREE TWO ZERO",
   "MONGOLIAN FOUR,MONGOLIAN LETTER CHA WITH TWO,MUSICAL SYMBOL REPEAT=DOTS",
   "MONGOLIAN INVERTED BIRGA WITH DOUBLE,MONGOLIAN ROTATED BIRGA WITH=ORNAMENT",
   "MONGOLIAN INVERTED,MONGOLIAN ROTATED,MONGOLIAN SWIRL=BIRGA",
   "MONGOLIAN LETTER ALI GALI HALF=U YA",
   "MONGOLIAN LETTER ALI GALI INVERTED=UBADAMA",
   "MONGOLIAN LETTER ALI GALI THREE=BALUDA",
   "MONGOLIAN LETTER ALI GALI VISARGA,NEW TAI LUE THAM DIGIT,SQUARED FIVE POINT=ONE",
   "MONGOLIAN LETTER ALI GALI=A AH BALUDA CA DA DAGALGA DAMARU DDA I KA NGA NNA PA PHA SSA TA",
   "MONGOLIAN LETTER ALI GALI=TTA TTHA UBADAMA ZA ZHA",
   "MONGOLIAN LETTER MANCHU ALI GALI=BHA CA CYA DDHA DHA GHA JHA LHA NGA SSA TA TTA ZA ZHA",
   "MONGOLIAN LETTER MANCHU=FA I KA RA ZHA",
   "MONGOLIAN LETTER SIBE=ANG CHA DA E FA GA GAA HA HAA I IY JA KA PA RAA SHA TA TSA U UE ZA ZHA",
   "MONGOLIAN LETTER TODO ALI GALI=TA ZHA",
   "MONGOLIAN LETTER TODO=ANG BA CHA DA DZA E GA GAA HAA I JA JIA KA MA NIA O OE PA QA TA TSA U",
   "MONGOLIAN LETTER TODO=UE WA YA",
   "MONGOLIAN LETTER=A ANG BA CHA CHI DA E EE FA GA HAA I JA KA KHA LA LHA MA NA O OE PA QA RA",
   "MONGOLIAN LETTER=SA SHA TA TSA U UE WA YA ZA ZHI ZRA",
   "MONGOLIAN ROTATED BIRGA WITH DOUBLE,MONGOLIAN SWIRL BIRGA WITH=ORNAMENT",
   "MONGOLIAN SIBE SYLLABLE BOUNDARY,RAISED DOTTED INTERPOLATION=MARKER",
   "MONGOLIAN SWIRL BIRGA WITH DOUBLE,MONGOLIAN TRIPLE BIRGA WITH=ORNAMENT",
   "MONGOLIAN TURNED SWIRL BIRGA WITH DOUBLE=ORNAMENT",
   "MONGOLIAN=BIRGA COLON COMMA ELLIPSIS NIRUGU",
   "MONOGRAM FOR=EARTH YANG YIN",
   "MOON VIEWING=CEREMONY",
   "MOTOR=BOAT SCOOTER",
   "MOUNT=FUJI",
   "MOUNTAIN=BICYCLIST CABLEWAY RAILWAY",
   "MOUSE=FACE TRAP",
   "MOVIE=CAMERA",
   "MRO LETTER=A BA CHU DA DAI E EA HAI HAO KEAAE KHAI KO LA LAN MAEM MIM NGI NIN O OL OO PA PHI",
   "MRO LETTER=RI RO SHI TA TEK THEA WA YO",
   "MUCH,SIMILAR OR,SLANTED EQUAL TO OR,TRIPLE NESTED,VERY MUCH=GREATER-THAN LESS-THAN",
   "MULTANI LETTER=A BA BHA CA CHA DA DDA DDDA DDHA DHA E GA GHA HA I JA JJA KA KHA LA MA NA NNA",
   "MULTANI LETTER=NYA PA PHA RA RHA RRA SA TA THA TTA TTHA U VA YA",
   "MULTANI SECTION,MUSICAL SYMBOL BREATH,MUSICAL SYMBOL HALF PEDAL=MARK",
   "MULTIPLICATION SIGN IN DOUBLE,MULTIPLICATION SIGN IN LEFT HALF=CIRCLE",
   "MULTIPLICATION SIGN IN RIGHT HALF,PLUS SIGN IN LEFT HALF=CIRCLE",
   "MULTIPLICATION SIGN IN,PLUS SIGN IN,PLUS SIGN WITH BLACK=TRIANGLE",
   "MULTIPLICATION SIGN WITH DOT,MYANMAR VOWEL SIGN E,MYANMAR VOWEL SIGN SHAN E=ABOVE",
   "MULTIPLICATION=SIGN X",
   "MULTISET=MULTIPLICATION UNION",
   "MUSIC NATURAL,MUSIC SHARP,MUSICAL SYMBOL KIEVAN FLAT=SIGN",
   "MUSICAL KEYBOARD WITH=JACKS",
   "MUSICAL SYMBOL ARPEGGIATO,MUSICAL SYMBOL FLAT,MUSICAL SYMBOL GLISSANDO=DOWN UP",
   "MUSICAL SYMBOL BEGIN,MUSICAL SYMBOL END=BEAM PHRASE SLUR TIE",
   "MUSICAL SYMBOL BREVIS,MUSICAL SYMBOL LONGA IMPERFECTA=REST",
   "MUSICAL SYMBOL C,MUSICAL SYMBOL F,MUSICAL SYMBOL G,MUSICAL SYMBOL GREGORIAN C=CLEF",
   "MUSICAL SYMBOL CIRCLE X,MUSICAL SYMBOL NULL,MUSICAL SYMBOL PARENTHESIS=NOTEHEAD",
   "MUSICAL SYMBOL CLUSTER NOTEHEAD,MUSICAL SYMBOL FUSA=BLACK WHITE",
   "MUSICAL SYMBOL COMBINING DOWN,MUSICAL SYMBOL COMBINING UP=BOW",
   "MUSICAL SYMBOL COMBINING SNAP=PIZZICATO",
   "MUSICAL SYMBOL COMBINING SPRECHGESANG,RIGHTWARDS ARROW WITH DOTTED=STEM",
   "MUSICAL SYMBOL COMBINING TRIPLE=TONGUE",
   "MUSICAL SYMBOL COMBINING=ACCENT ACCENT-STACCATO BEND DOIT FLAG-1 FLAG-2 FLAG-3 FLAG-4 FLAG-5",
   "MUSICAL SYMBOL COMBINING=FLIP HARMONIC LOURE MARCATO MARCATO-STACCATO RIP SMEAR",
   "MUSICAL SYMBOL COMBINING=STACCATISSIMO STACCATO STEM TENUTO TREMOLO-1 TREMOLO-2 TREMOLO-3",
   "MUSICAL SYMBOL COMMON,MUSICAL SYMBOL CUT,SIGNWRITING DYNAMIC EVERY OTHER=TIME",
   "MUSICAL SYMBOL DA=CAPO",
   "MUSICAL SYMBOL DAL=SEGNO",
   "MUSICAL SYMBOL DASHED,MUSICAL SYMBOL FINAL,MUSICAL SYMBOL REVERSE FINAL=BARLINE",
   "MUSICAL SYMBOL DOUBLE=BARLINE FLAT SHARP",
   "MUSICAL SYMBOL DRUM=CLEF-1 CLEF-2",
   "MUSICAL SYMBOL EIGHTH,MUSICAL SYMBOL HALF=NOTE REST",
   "MUSICAL SYMBOL END OF=STIMME",
   "MUSICAL SYMBOL F CLEF OTTAVA,MUSICAL SYMBOL G CLEF OTTAVA=ALTA BASSA",
   "MUSICAL SYMBOL FERMATA,MYANMAR SIGN DOT,PLUS SIGN WITH DOT=BELOW",
   "MUSICAL SYMBOL FINGERED=TREMOLO-1 TREMOLO-2 TREMOLO-3",
   "MUSICAL SYMBOL FIVE-LINE,MUSICAL SYMBOL FOUR-LINE,MUSICAL SYMBOL ONE-LINE=STAFF",
   "MUSICAL SYMBOL FOUR-STRING,MUSICAL SYMBOL SIX-STRING=FRETBOARD",
   "MUSICAL SYMBOL GRACE NOTE,MUSICAL SYMBOL GRACE NOTE NO=SLASH",
   "MUSICAL SYMBOL GREGORIAN F,MUSICAL SYMBOL KIEVAN C=CLEF",
   "MUSICAL SYMBOL INVERTED=TURN",
   "MUSICAL SYMBOL KIEVAN EIGHTH NOTE STEM,MUSICAL SYMBOL KIEVAN QUARTER NOTE STEM=DOWN UP",
   "MUSICAL SYMBOL KIEVAN END OF,RIGHT CURLY BRACKET MIDDLE,TURNED BLACK SHOGI=PIECE",
   "MUSICAL SYMBOL KIEVAN RECITATIVE,MUSICAL SYMBOL PEDAL,MUSICAL SYMBOL PEDAL UP=MARK",
   "MUSICAL SYMBOL KIEVAN WHOLE,QUARTER=NOTE",
   "MUSICAL SYMBOL LEFT REPEAT,MUSICAL SYMBOL RIGHT REPEAT,NAIRA,NEW SHEQEL=SIGN",
   "MUSICAL SYMBOL LONGA PERFECTA,MUSICAL SYMBOL MULTI=REST",
   "MUSICAL SYMBOL MINIMA=BLACK REST",
   "MUSICAL SYMBOL MOON NOTEHEAD,MUSICAL SYMBOL SQUARE NOTEHEAD=BLACK WHITE",
   "MUSICAL SYMBOL MULTIPLE MEASURE=REST",
   "MUSICAL SYMBOL NATURAL,MUSICAL SYMBOL SHARP,OBLIQUE ANGLE OPENING=DOWN UP",
   "MUSICAL SYMBOL NOTEHEAD,SQUARE WITH BOTTOM HALF,SQUARE WITH LEFT HALF=BLACK",
   "MUSICAL SYMBOL ONE HUNDRED TWENTY-EIGHTH,MUSICAL SYMBOL QUARTER=NOTE REST",
   "MUSICAL SYMBOL ORNAMENT=STROKE-1 STROKE-10 STROKE-11 STROKE-2 STROKE-3 STROKE-4 STROKE-5",
   "MUSICAL SYMBOL ORNAMENT=STROKE-6 STROKE-7 STROKE-8 STROKE-9",
   "MUSICAL SYMBOL OTTAVA,MUSICAL SYMBOL QUINDICESIMA=ALTA BASSA",
   "MUSICAL SYMBOL PES=SUBPUNCTIS",
   "MUSICAL SYMBOL PLUS,MUSICAL SYMBOL VOID,MUSICAL SYMBOL X=NOTEHEAD",
   "MUSICAL SYMBOL PORRECTUS,MUSICAL SYMBOL SCANDICUS=FLEXUS",
   "MUSICAL SYMBOL QUARTER TONE=FLAT SHARP",
   "MUSICAL SYMBOL REPEATED=FIGURE-1 FIGURE-2 FIGURE-3",
   "MUSICAL SYMBOL SEMIBREVIS,MUSICAL SYMBOL SEMIMINIMA=BLACK REST WHITE",
   "MUSICAL SYMBOL SHORT,MUSICAL SYMBOL SINGLE=BARLINE",
   "MUSICAL SYMBOL SIX-LINE,MUSICAL SYMBOL THREE-LINE,MUSICAL SYMBOL TWO-LINE=STAFF",
   "MUSICAL SYMBOL SIXTEENTH,MUSICAL SYMBOL SIXTY-FOURTH=NOTE REST",
   "MUSICAL SYMBOL TEMPUS IMPERFECTUM CUM PROLATIONE IMPERFECTA=DIMINUTION-1 DIMINUTION-2",
   "MUSICAL SYMBOL TEMPUS IMPERFECTUM CUM PROLATIONE IMPERFECTA=DIMINUTION-3",
   "MUSICAL SYMBOL TEMPUS IMPERFECTUM CUM PROLATIONE=IMPERFECTA PERFECTA",
   "MUSICAL SYMBOL TEMPUS PERFECTUM CUM PROLATIONE PERFECTA=DIMINUTION-1",
   "MUSICAL SYMBOL TEMPUS PERFECTUM CUM PROLATIONE=IMPERFECTA PERFECTA",
   "MUSICAL SYMBOL THIRTY-SECOND,MUSICAL SYMBOL WHOLE=NOTE REST",
   "MUSICAL SYMBOL TORCULUS=RESUPINUS",
   "MUSICAL SYMBOL TRIANGLE NOTEHEAD DOWN,MUSICAL SYMBOL TRIANGLE NOTEHEAD LEFT=BLACK WHITE",
   "MUSICAL SYMBOL TRIANGLE NOTEHEAD RIGHT,MUSICAL SYMBOL TRIANGLE NOTEHEAD UP=BLACK WHITE",
   "MUSICAL SYMBOL TRIANGLE NOTEHEAD UP RIGHT=BLACK WHITE",
   "MUSICAL SYMBOL TRIANGLE-ROUND NOTEHEAD DOWN=BLACK WHITE",
   "MUSICAL SYMBOL TURN=SLASH UP",
   "MUSICAL SYMBOL WITH=FINGERNAILS",
   "MUSICAL SYMBOL=BRACE BRACKET BREVE BREVIS CAESURA CLIMACUS CLIVIS CODA CRESCENDO CROIX DAMP",
   "MUSICAL SYMBOL=DECRESCENDO FERMATA FORTE HAUPTSTIMME KORON LONGA MAXIMA MEZZO MINIMA",
   "MUSICAL SYMBOL=NEBENSTIMME PIANO PODATUS PORRECTUS RINFORZANDO SCANDICUS SEGNO SORI SUBITO",
   "MUSICAL SYMBOL=TORCULUS TR TURN VIRGA Z",
   "MUSICAL=KEYBOARD NOTE SCORE",
   "MYANMAR CONSONANT SIGN MEDIAL=HA RA WA YA",
   "MYANMAR CONSONANT SIGN MON MEDIAL=LA MA NA",
   "MYANMAR CONSONANT SIGN SHAN MEDIAL=WA",
   "MYANMAR LETTER EASTERN PWO KAREN=GHWA NNA YWA",
   "MYANMAR LETTER KHAMTI=CA CHA DDA DDHA DHA FA GA HA HHA JA JHA LLA NA NYA RA SA TTA TTHA XA",
   "MYANMAR LETTER KHAMTI=ZA",
   "MYANMAR LETTER MON=BBA BBE E JHA NGA",
   "MYANMAR LETTER SGAW KAREN,PHAGS-PA LETTER VOICELESS=SHA",
   "MYANMAR LETTER SHAN=A BA BHA CA CHA DA FA GA GHA HA JHA KA KHA NA NNA NYA PHA THA ZA",
   "MYANMAR LETTER SHWE PALAUNG=CHA SHA",
   "MYANMAR LETTER TAI LAING=BA BHA DA DDA DDHA DHA FA GA GHA JA JHA LLA NNA NYA",
   "MYANMAR LETTER WESTERN PWO KAREN=PWA THA",
   "MYANMAR LETTER=A AU BA BHA CA CHA DA DDA DDHA DHA E GA GHA HA I II JA JHA KA KHA LA LLA MA",
   "MYANMAR LETTER=NA NGA NNA NNYA NYA O PA PHA RA SA SHA SSA TA THA TTA TTHA U UU WA YA",
   "MYANMAR LOGOGRAM KHAMTI=HM OAY QN",
   "MYANMAR MODIFIER LETTER KHAMTI,MYANMAR MODIFIER LETTER SHAN=REDUPLICATION",
   "MYANMAR SIGN KHAMTI=TONE-1 TONE-3",
   "MYANMAR SIGN PAO KAREN,MYANMAR SIGN SHAN COUNCIL EMPHATIC=TONE",
   "MYANMAR SIGN RUMAI PALAUNG=TONE-5",
   "MYANMAR SIGN SHAN COUNCIL=TONE-2 TONE-3",
   "MYANMAR SIGN SHAN=SAW TONE-2 TONE-3 TONE-5 TONE-6",
   "MYANMAR SIGN TAI LAING=TONE-2 TONE-5",
   "MYANMAR SIGN WESTERN PWO KAREN=TONE-1 TONE-2 TONE-3 TONE-4 TONE-5",
   "MYANMAR SIGN=ANUSVARA ASAT SECTION VIRAMA VISARGA",
   "MYANMAR SYMBOL AITON=EXCLAMATION ONE TWO",
   "MYANMAR SYMBOL SHAN=EXCLAMATION ONE",
   "MYANMAR SYMBOL=AFOREMENTIONED COMPLETED GENITIVE LOCATIVE",
   "MYANMAR TAI LAING DIGIT,NEW TAI LUE DIGIT,NEWA DIGIT,NKO DIGIT=EIGHT FIVE FOUR NINE ONE",
   "MYANMAR TAI LAING DIGIT,NEW TAI LUE DIGIT,NEWA DIGIT,NKO DIGIT=SEVEN SIX THREE TWO ZERO",
   "MYANMAR TONE MARK SGAW KAREN KE=PHO",
   "MYANMAR TONE MARK SGAW KAREN=HATHI",
   "MYANMAR VOWEL SIGN AITON=A AI",
   "MYANMAR VOWEL SIGN KAYAH=EE OE U",
   "MYANMAR VOWEL SIGN MON=II O",
   "MYANMAR VOWEL SIGN SGAW KAREN=EU",
   "MYANMAR VOWEL SIGN SHAN=AA E",
   "MYANMAR VOWEL SIGN WESTERN PWO KAREN=EU UE",
   "MYANMAR VOWEL SIGN=AA AI E I II U UU",
   "N-ARY CIRCLED TIMES,N-ARY SQUARE INTERSECTION,N-ARY SQUARE UNION=OPERATOR",
   "N-ARY TIMES,PARALLEL WITH TILDE,QUADRUPLE INTEGRAL,QUATERNION INTEGRAL=OPERATOR",
   "N-ARY UNION OPERATOR WITH=DOT PLUS",
   "N-ARY=COPRODUCT INTERSECTION PRODUCT SUMMATION UNION",
   "NABATAEAN CRUCIFORM NUMBER,TELUGU FRACTION DIGIT ONE FOR EVEN POWERS OF=FOUR",
   "NABATAEAN LETTER FINAL=ALEPH BETH HE KAPH LAMEDH MEM NUN SHIN YODH",
   "NABATAEAN LETTER,PALMYRENE LETTER=ALEPH AYIN BETH DALETH GIMEL HE HETH KAPH LAMEDH MEM NUN",
   "NABATAEAN LETTER,PALMYRENE LETTER=PE QOPH RESH SADHE SAMEKH SHIN TAW TETH WAW YODH ZAYIN",
   "NABATAEAN NUMBER,PALMYRENE NUMBER=FIVE FOUR ONE TEN THREE TWENTY TWO",
   "NAIL=POLISH",
   "NAME=BADGE",
   "NANDINAGARI LETTER=A AA AI AU BA BHA CA CHA DA DDA DDHA DHA E GA GHA HA I II JA JHA KA KHA",
   "NANDINAGARI LETTER=LA LLA MA NA NGA NNA NYA O PA PHA RA RRA SA SHA SSA TA THA TTA TTHA U UU",
   "NANDINAGARI LETTER=VA YA",
   "NANDINAGARI SIGN=ANUSVARA AVAGRAHA SIDDHAM VIRAMA VISARGA",
   "NANDINAGARI VOWEL SIGN PRISHTHAMATRA,OLD HUNGARIAN CAPITAL LETTER CLOSE=E",
   "NANDINAGARI VOWEL SIGN VOCALIC,SIDDHAM VOWEL SIGN VOCALIC=R RR",
   "NANDINAGARI=HEADSTROKE",
   "NATIONAL DIGIT,NOMINAL DIGIT=SHAPES",
   "NATIONAL=PARK",
   "NAZAR=AMULET",
   "NEGATED DOUBLE VERTICAL BAR DOUBLE RIGHT,TRIPLE VERTICAL BAR RIGHT=TURNSTILE",
   "NEGATIVE CIRCLED LATIN CAPITAL LETTER,NEGATIVE SQUARED LATIN CAPITAL LETTER=A B C D E F G H",
   "NEGATIVE CIRCLED LATIN CAPITAL LETTER,NEGATIVE SQUARED LATIN CAPITAL LETTER=I J K L M N O P",
   "NEGATIVE CIRCLED LATIN CAPITAL LETTER,NEGATIVE SQUARED LATIN CAPITAL LETTER=Q R S T U V W X",
   "NEGATIVE CIRCLED LATIN CAPITAL LETTER,NEGATIVE SQUARED LATIN CAPITAL LETTER=Y Z",
   "NEGATIVE CIRCLED NUMBER=EIGHTEEN ELEVEN FIFTEEN FOURTEEN NINETEEN SEVENTEEN SIXTEEN THIRTEEN",
   "NEGATIVE CIRCLED NUMBER=TWELVE TWENTY",
   "NEGATIVE CIRCLED=SQUARE TRIANGLE",
   "NEGATIVE DIAGONAL MIDDLE RIGHT TO LOWER=CENTRE",
   "NEGATIVE SQUARED CROSS,NEGATIVE SQUARED QUESTION,NEWA PLACEHOLDER,NEWA SANDHI=MARK",
   "NEGATIVE SQUARED=AB IC PA SA WC",
   "NEGATIVE,SYMBOL FOR NEGATIVE=ACKNOWLEDGE",
   "NEITHER A SUPERSET OF NOR EQUAL,NEITHER APPROXIMATELY NOR ACTUALLY EQUAL=TO",
   "NEITHER GREATER-THAN NOR EQUAL,NEITHER GREATER-THAN NOR EQUIVALENT=TO",
   "NEITHER GREATER-THAN NOR=LESS-THAN",
   "NEITHER LESS-THAN NOR EQUAL,NEITHER LESS-THAN NOR EQUIVALENT=TO",
   "NEPTUNE FORM,PLUS SIGN WITH SUBSCRIPT,SQUARED TWENTY-TWO POINT=TWO",
   "NEST WITH=EGGS",
   "NESTING=DOLLS",
   "NEUTRAL CHESS BISHOP ROTATED NINETY=DEGREES",
   "NEUTRAL CHESS BISHOP ROTATED TWO HUNDRED SEVENTY=DEGREES",
   "NEUTRAL CHESS EQUIHOPPER ROTATED NINETY,NEUTRAL CHESS KING ROTATED NINETY=DEGREES",
   "NEUTRAL CHESS KING ROTATED TWO HUNDRED SEVENTY=DEGREES",
   "NEUTRAL CHESS KNIGHT ROTATED FORTY-FIVE,NEUTRAL CHESS KNIGHT ROTATED NINETY=DEGREES",
   "NEUTRAL CHESS KNIGHT ROTATED ONE HUNDRED THIRTY-FIVE=DEGREES",
   "NEUTRAL CHESS KNIGHT ROTATED THREE HUNDRED FIFTEEN=DEGREES",
   "NEUTRAL CHESS KNIGHT ROTATED TWO HUNDRED SEVENTY=DEGREES",
   "NEUTRAL CHESS KNIGHT ROTATED TWO HUNDRED TWENTY-FIVE=DEGREES",
   "NEUTRAL CHESS PAWN ROTATED NINETY=DEGREES",
   "NEUTRAL CHESS PAWN ROTATED TWO HUNDRED SEVENTY=DEGREES",
   "NEUTRAL CHESS QUEEN ROTATED NINETY=DEGREES",
   "NEUTRAL CHESS QUEEN ROTATED TWO HUNDRED SEVENTY=DEGREES",
   "NEUTRAL CHESS ROOK ROTATED NINETY=DEGREES",
   "NEUTRAL CHESS ROOK ROTATED TWO HUNDRED SEVENTY=DEGREES",
   "NEUTRAL CHESS=BISHOP EQUIHOPPER KING KNIGHT PAWN QUEEN ROOK",
   "NEW TAI LUE LETTER FINAL=B D K M N NG V",
   "NEW TAI LUE LETTER HIGH,NEW TAI LUE LETTER LOW=BA DA FA HA KA KVA LA MA NA NGA PA PHA QA SA",
   "NEW TAI LUE LETTER HIGH,NEW TAI LUE LETTER LOW=SUA TA THA TSA VA XA XVA YA",
   "NEW TAI LUE SIGN=LAE LAEV",
   "NEW TAI LUE TONE,SHARADA SECTION,SOYOMBO TERMINAL=MARK-1 MARK-2",
   "NEW TAI LUE VOWEL SIGN VOWEL=SHORTENER",
   "NEW TAI LUE VOWEL SIGN=AA AAY AE AY E II IY O OA OAY OY U UE UEY UU UY",
   "NEWA ABBREVIATION,NEWA INSERTION,NKO DOROME,NKO TAMAN,NO ENTRY,NOMISMA=SIGN",
   "NEWA DOUBLE=COMMA DANDA",
   "NEWA LETTER VOCALIC,NEWA VOWEL SIGN VOCALIC,ORIYA LETTER VOCALIC=L LL R RR",
   "NEWA LETTER=A AA AI AU BA BHA CA CHA DA DDA DDHA DHA E GA GHA HA I II JA JHA KA KHA LA LHA",
   "NEWA LETTER=MA MHA NA NGA NGHA NHA NNA NYA NYHA O PA PHA RA RHA SA SHA SSA TA THA TTA TTHA U",
   "NEWA LETTER=UU WA YA",
   "NEWA SIGN=ANUSVARA AVAGRAHA CANDRABINDU JIHVAMULIYA NUKTA UPADHMANIYA VIRAMA VISARGA",
   "NEWA=COMMA DANDA OM SIDDHI",
   "NEXT=LINE PAGE",
   "NIGHT WITH=STARS",
   "NKO COMBINING DOUBLE DOT,ON WITH EXCLAMATION MARK WITH LEFT RIGHT ARROW=ABOVE",
   "NKO COMBINING LONG DESCENDING,NKO COMBINING LONG HIGH,NKO COMBINING LONG LOW=TONE",
   "NKO COMBINING LONG RISING,NKO COMBINING SHORT HIGH,NKO COMBINING SHORT LOW=TONE",
   "NKO COMBINING NASALIZATION,NKO EXCLAMATION,NORTH INDIC PLACEHOLDER=MARK",
   "NKO COMBINING SHORT RISING,PAU CIN HAU LOW-FALLING,PAU CIN HAU MID-LEVEL=TONE",
   "NKO LETTER JONA=CHA JA RA",
   "NKO LETTER NA,NKO LETTER NYA=WOLOSO",
   "NKO LETTER=A BA CHA DA DAGBASINNA E EE FA GBA HA I JA KA LA MA N NA NYA O OO PA RA RRA SA TA",
   "NKO LETTER=U WA YA",
   "NKO SYMBOL OO=DENNEN",
   "NKO SYMBOL=GBAKURUNEN",
   "NKO=COMMA DANTAYALAN LAJANYALAN",
   "NO MOBILE=PHONES",
   "NO-BREAK,PUNCTUATION,SIGNWRITING LOCATION-FLOORPLANE=SPACE",
   "NO=BICYCLES ENTRY PEDESTRIANS PIRACY",
   "NON-POTABLE WATER,OBSERVER EYE,OM,OPEN-CIRCUIT-OUTPUT H-TYPE=SYMBOL",
   "NORDIC MARK,NUMBER,NUMERO,OCTAGONAL,OHM,OK HAND=SIGN",
   "NORMAL SUBGROUP OF OR EQUAL,NOT ALMOST EQUAL,NOT ASYMPTOTICALLY EQUAL,NOT EQUAL=TO",
   "NORTH EAST ARROW AND SOUTH EAST,NORTH EAST ARROW CROSSING NORTH WEST=ARROW",
   "NORTH EAST ARROW CROSSING SOUTH EAST,NORTH EAST BLACK,NORTH EAST DOUBLE=ARROW",
   "NORTH EAST ARROW WITH,NORTH WEST ARROW WITH,RIGHT CURLY BRACKET LOWER=HOOK",
   "NORTH EAST POINTING VINE,NORTH WEST POINTING VINE,SOUTH EAST POINTING VINE=LEAF",
   "NORTH EAST POINTING,NORTH WEST POINTING,SOUTH EAST POINTING,SOUTH WEST POINTING=BUD LEAF",
   "NORTH EAST SANS-SERIF,NORTH EAST TRIANGLE-HEADED,NORTH EAST WHITE,NORTH WEST=ARROW",
   "NORTH EAST TRIANGLE-HEADED ARROW TO,NORTH WEST ARROW TO LONG=BAR",
   "NORTH INDIC FRACTION ONE,ORIYA FRACTION ONE=EIGHTH HALF QUARTER SIXTEENTH",
   "NORTH INDIC FRACTION THREE,ORIYA FRACTION THREE=QUARTERS SIXTEENTHS",
   "NORTH INDIC QUANTITY,NORTH INDIC QUARTER,NORTH INDIC RUPEE,NOT CHECK=MARK",
   "NORTH WEST AND SOUTH EAST,NORTH WEST ARROW AND NORTH EAST=ARROW",
   "NORTH WEST ARROW CROSSING NORTH EAST,NORTH WEST BLACK,NORTH WEST DOUBLE=ARROW",
   "NORTH WEST ARROW TO,RIGHT SQUARE BRACKET LOWER,RIGHT SQUARE BRACKET UPPER=CORNER",
   "NORTH WEST SANS-SERIF,NORTH WEST TRIANGLE-HEADED,NORTH WEST WHITE=ARROW",
   "NORTH WEST TRIANGLE-HEADED ARROW TO,OLD UYGHUR PUNCTUATION=BAR",
   "NORTHEAST-POINTING,UP-POINTING,UP-POINTING MILITARY,UP-POINTING SMALL=AIRPLANE",
   "NOT A SUBSET,NOT A SUPERSET,NOT AN ELEMENT,NOT NORMAL SUBGROUP,ORIGINAL=OF",
   "NOT EQUIVALENT,NOT IDENTICAL,NOT NORMAL SUBGROUP OF OR EQUAL,NOT PARALLEL=TO",
   "NOT SQUARE IMAGE OF OR EQUAL,NOT SQUARE ORIGINAL OF OR EQUAL,PARALLEL=TO",
   "NOT=GREATER-THAN LESS-THAN SIGN TILDE TRUE",
   "NOTCHED LEFT SEMICIRCLE WITH THREE,NOTCHED RIGHT SEMICIRCLE WITH THREE=DOTS",
   "NOTCHED LOWER RIGHT-SHADOWED WHITE RIGHTWARDS=ARROW",
   "NOTCHED UPPER RIGHT-SHADOWED WHITE RIGHTWARDS,OPEN-OUTLINED RIGHTWARDS=ARROW",
   "NOTEBOOK WITH DECORATIVE=COVER",
   "NUMBER EIGHTEEN FULL,NUMBER ELEVEN FULL,NUMBER FIFTEEN FULL=STOP",
   "NUMBER FOURTEEN FULL,NUMBER NINETEEN FULL,NUMBER SEVENTEEN FULL=STOP",
   "NUMBER SIXTEEN FULL,NUMBER TEN FULL,NUMBER THIRTEEN FULL,NUMBER TWELVE FULL=STOP",
   "NUMBER TWENTY FULL,PAU CIN HAU GLOTTAL,PAU CIN HAU SANDHI GLOTTAL=STOP",
   "NUSHU ITERATION,OGHAM FEATHER,OGHAM REVERSED FEATHER,OGHAM SPACE=MARK",
   "NUT AND=BOLT",
   "NYIAKENG PUACHUE HMONG CIRCLED=CA",
   "NYIAKENG PUACHUE HMONG DIGIT,OL CHIKI DIGIT,ORIYA DIGIT,OSMANYA DIGIT=EIGHT FIVE FOUR NINE",
   "NYIAKENG PUACHUE HMONG DIGIT,OL CHIKI DIGIT,ORIYA DIGIT,OSMANYA DIGIT=ONE SEVEN SIX THREE",
   "NYIAKENG PUACHUE HMONG DIGIT,OL CHIKI DIGIT,ORIYA DIGIT,OSMANYA DIGIT=TWO ZERO",
   "NYIAKENG PUACHUE HMONG LETTER=A AA CA DA DLA E EE FA GA HA HAH I KA LA MA MLA NA NCA NKA NPA",
   "NYIAKENG PUACHUE HMONG LETTER=NPLA NQA NRA NTA NTSA NTXA NYA O OO PA PLA QA RA RRA SA TA TSA",
   "NYIAKENG PUACHUE HMONG LETTER=TXA U VA W XA XYA YA ZA",
   "NYIAKENG PUACHUE HMONG LOGOGRAM=NYAJ",
   "NYIAKENG PUACHUE HMONG SIGN FOR=ANIMAL INVERTEBRATE LOCATION PERSON THING",
   "NYIAKENG PUACHUE HMONG SIGN XW=XW",
   "NYIAKENG PUACHUE HMONG=TONE-B TONE-D TONE-G TONE-J TONE-M TONE-S TONE-V",
   "OBJECT REPLACEMENT,PADDING,REPLACEMENT=CHARACTER",
   "OBLIQUE,SOFT=HYPHEN",
   "OCR BELT=BUCKLE",
   "OCR BOW=TIE",
   "OCR BRANCH BANK=IDENTIFICATION",
   "OCR CUSTOMER ACCOUNT=NUMBER",
   "OCR INVERTED=FORK",
   "OCR=CHAIR DASH FORK HOOK",
   "OGHAM LETTER=AILM BEITH CEIRT COLL DAIR EABHADH EADHADH EAMHANCHOLL FEARN GORT IFIN IODHADH",
   "OGHAM LETTER=LUIS MUIN NGEADAL NION ONN OR PEITH RUIS SAIL STRAIF TINNE UATH UILLEANN UR",
   "OIL=DRUM",
   "OL CHIKI GAAHLAA,OL CHIKI MU-GAAHLAA=TTUDDAAG",
   "OL CHIKI LETTER=AAJ AAK AAM AAW AG AL ANG AT EDD EN EP ERR IH INY IR IS LA LAA LE LI LO LU",
   "OL CHIKI LETTER=OB OH OTT OV UC UD UNN UY",
   "OL CHIKI MU=TTUDDAG",
   "OL CHIKI PUNCTUATION,OL CHIKI PUNCTUATION DOUBLE=MUCAAD",
   "OL CHIKI=AHAD PHAARKAA RELAA",
   "OLD CHINESE HOOK,OLD CHINESE ITERATION,ORIYA AI LENGTH,ORIYA AU LENGTH=MARK",
   "OLD HUNGARIAN CAPITAL LETTER ENT-SHAPED,OLD HUNGARIAN SMALL LETTER ENT-SHAPED=SIGN",
   "OLD HUNGARIAN CAPITAL LETTER NIKOLSBURG,OLD HUNGARIAN CAPITAL LETTER RUDIMENTA=OE UE",
   "OLD HUNGARIAN CAPITAL LETTER SHORT,OLD HUNGARIAN SMALL LETTER SHORT=ER",
   "OLD HUNGARIAN CAPITAL LETTER,OLD HUNGARIAN SMALL LETTER=A AA AK AMB AND E EB EC ECH ECS ED",
   "OLD HUNGARIAN CAPITAL LETTER,OLD HUNGARIAN SMALL LETTER=EE EF EG EGY EH EJ EK EL ELY EM EMP",
   "OLD HUNGARIAN CAPITAL LETTER,OLD HUNGARIAN SMALL LETTER=EN ENC ENT ENY EP ER ES ESZ ET ETY",
   "OLD HUNGARIAN CAPITAL LETTER,OLD HUNGARIAN SMALL LETTER=EV EZ EZS I II O OEE OO U UNK US UU",
   "OLD HUNGARIAN NUMBER ONE,OTTOMAN SIYAQ NUMBER EIGHT=HUNDRED THOUSAND",
   "OLD HUNGARIAN NUMBER,OLD ITALIC NUMERAL=FIFTY FIVE ONE TEN",
   "OLD HUNGARIAN SMALL LETTER CLOSE,RUNIC LETTER EHWAZ EH=E",
   "OLD HUNGARIAN SMALL LETTER NIKOLSBURG,OLD HUNGARIAN SMALL LETTER RUDIMENTA=OE UE",
   "OLD ITALIC LETTER NORTHERN,OLD ITALIC LETTER SOUTHERN=TSE",
   "OLD ITALIC LETTER=A BE CHE DE E EF EKS EL EM EN ER ERS ES ESH ESS HE I II KA KE KHE KU O PE",
   "OLD ITALIC LETTER=PHE SHE TE THE U UU VE YE ZE",
   "OLD NORTH ARABIAN LETTER=AIN ALEF BEH DAD DAL ES-1 ES-2 ES-3 FEH GEEM GHAIN HAH HEH KAF KHAH",
   "OLD NORTH ARABIAN LETTER=LAM MEEM NOON QAF REH SAD TAH TEH THAL THEH WAW YEH ZAH ZAIN",
   "OLD NORTH ARABIAN NUMBER,SOGDIAN NUMBER=ONE TEN TWENTY",
   "OLD PERMIC LETTER=AN BUR CHERY DOI DZHOI DZITA E EF GAI HA I IA IE KOKE LEI MENOE NENOE O OO",
   "OLD PERMIC LETTER=PEEI REI SHCHOOI SHOOI SII TAI TSIU U VER VOOI YA YAT YER YERI YERU YRY YU",
   "OLD PERMIC LETTER=ZATA ZHOI",
   "OLD PERSIAN NUMBER=HUNDRED ONE TEN TWENTY TWO",
   "OLD PERSIAN SIGN=A AURAMAZDAA AURAMAZDAA-2 AURAMAZDAAHA BA BAGA BUUMISH CA DA DAHYAAUSH",
   "OLD PERSIAN SIGN=DAHYAAUSH-2 DI DU FA GA GU HA I JA JI KA KU LA MA MI MU NA NU PA RA RU SA",
   "OLD PERSIAN SIGN=SHA SSA TA THA TU U VA VI XA XSHAAYATHIYA YA ZA",
   "OLD PERSONAL,PERSONAL=COMPUTER",
   "OLD SOGDIAN FRACTION ONE,VERTICAL KANA REPEAT MARK LOWER=HALF",
   "OLD SOGDIAN LETTER FINAL NUN WITH VERTICAL=TAIL",
   "OLD SOGDIAN LETTER FINAL SADHE WITH VERTICAL=TAIL",
   "OLD SOGDIAN LETTER FINAL TAW WITH VERTICAL,RIGHT FISH=TAIL",
   "OLD SOGDIAN LETTER FINAL=ALEPH BETH HE NUN SADHE TAW",
   "OLD SOGDIAN LETTER=ALEPH AYIN BETH GIMEL HE HETH KAPH LAMEDH MEM NUN PE RESH-AYIN-DALETH",
   "OLD SOGDIAN LETTER=SADHE SAMEKH SHIN TAW WAW YODH ZAYIN",
   "OLD SOGDIAN LIGATURE=AYIN-DALETH",
   "OLD SOGDIAN NUMBER ONE,OTTOMAN SIYAQ ALTERNATE NUMBER FOUR=HUNDRED",
   "OLD SOGDIAN NUMBER=FIVE FOUR ONE TEN THIRTY THREE TWENTY TWO",
   "OLD SOUTH ARABIAN LETTER=ALEF AYN BETH DALETH DHADHE DHALETH FE GHAYN GIMEL HE HETH KAPH",
   "OLD SOUTH ARABIAN LETTER=KHETH LAMEDH MEM NUN QOPH RESH SADHE SAMEKH SAT SHIN TAW TETH THAW",
   "OLD SOUTH ARABIAN LETTER=THETH WAW YODH ZAYN",
   "OLD SOUTH ARABIAN NUMBER=FIFTY ONE",
   "OLD SOUTH ARABIAN NUMERIC,POSITION,SQUARE POSITION=INDICATOR",
   "OLD TURKIC LETTER ORKHON=A AB AD AEB AED AEG AEK AEL AEN AER AES AET AEY AG AL AN AQ AR AS",
   "OLD TURKIC LETTER ORKHON=ASH AT AY BASH EC ELT EM ENC ENG ENT ENY EP ESH EZ I IC IQ O OE OEK",
   "OLD TURKIC LETTER ORKHON=OP OQ OT",
   "OLD TURKIC LETTER YENISEI=A AB AD AE AEB AEG AEK AEN AENG AET AEY AG AL ANG AQ AR ASH AT AY",
   "OLD TURKIC LETTER YENISEI=E EC ENC ENT ENY ESH EZ I IQ OE OEK OQ",
   "OLD UYGHUR COMBINING DOT,OLD UYGHUR COMBINING TWO DOTS,PLUS SIGN WITH TILDE=ABOVE BELOW",
   "OLD UYGHUR LETTER FINAL=HETH",
   "OLD UYGHUR LETTER=ALEPH BETH GIMEL-HETH KAPH LAMEDH LESH MEM NUN PE RESH SADHE SAMEKH SHIN",
   "OLD UYGHUR LETTER=TAW WAW YODH ZAYIN",
   "OLD UYGHUR PUNCTUATION FOUR,RIGHT-FACING SVASTI SIGN WITH=DOTS",
   "OLD UYGHUR PUNCTUATION TWO=BARS DOTS",
   "OLDER=ADULT MAN WOMAN",
   "ONCOMING FIRE=ENGINE",
   "ONCOMING=AUTOMOBILE BUS TAXI",
   "ONE DOT OVER TWO DOTS,PHILIPPINE DOUBLE,PHILIPPINE SINGLE,RUNIC CROSS=PUNCTUATION",
   "ONE DOT,PRESENTATION FORM FOR VERTICAL TWO DOT=LEADER",
   "ONE-PIECE=SWIMSUIT",
   "OPEN CENTRE TEARDROP-SPOKED,SIXTEEN POINTED,SLAVONIC,TEARDROP-SPOKED=ASTERISK",
   "OPEN CENTRE=ASTERISK CROSS",
   "OPEN FILE=FOLDER",
   "OPEN HANDS,OUNCE,PARTNERSHIP,PER,PER MILLE,PER TEN THOUSAND,PERCENT=SIGN",
   "OPEN MAILBOX WITH LOWERED,OPEN MAILBOX WITH RAISED,WAVING BLACK,WAVING WHITE=FLAG",
   "OPEN-CIRCUIT-OUTPUT L-TYPE,PARTIALLY-RECYCLED PAPER,PASSED=SYMBOL",
   "OPEN=BOOK BOX FOLDER LOCK SUBSET SUPERSET",
   "OPTICAL DISC,PRINTER=ICON",
   "OPTICAL=DISC",
   "ORIYA LETTER=A AA AI AU BA BHA CA CHA DA DDA DDHA DHA E GA GHA HA I II JA JHA KA KHA LA LLA",
   "ORIYA LETTER=MA NA NGA NNA NYA O PA PHA RA RHA RRA SA SHA SSA TA THA TTA TTHA U UU VA WA YA",
   "ORIYA LETTER=YYA",
   "ORIYA SIGN=ANUSVARA AVAGRAHA CANDRABINDU NUKTA OVERLINE VIRAMA VISARGA",
   "ORIYA VOWEL SIGN VOCALIC,SAURASHTRA LETTER VOCALIC,SAURASHTRA VOWEL SIGN VOCALIC=L LL R RR",
   "ORIYA VOWEL SIGN,SHARADA VOWEL SIGN,SIDDHAM VOWEL SIGN,TAKRI VOWEL SIGN=AA AI AU E I II O U",
   "ORIYA VOWEL SIGN,SHARADA VOWEL SIGN,SIDDHAM VOWEL SIGN,TAKRI VOWEL SIGN=UU",
   "ORIYA=ISSHAR",
   "ORNATE LEFT,ORNATE RIGHT,PRESENTATION FORM FOR VERTICAL LEFT=PARENTHESIS",
   "OSAGE CAPITAL LETTER,OSAGE SMALL LETTER=A AH AI AIN BRA CHA DHA E EHCHA EHKA EHPA EHTA EHTSA",
   "OSAGE CAPITAL LETTER,OSAGE SMALL LETTER=EIN GHA HA HYA I KA KHA KYA LA MA NA O OIN PA SA SHA",
   "OSAGE CAPITAL LETTER,OSAGE SMALL LETTER=TA TSA TSHA U WA ZA ZHA",
   "OSMANYA LETTER=A AA ALEF BA CAYN DEEL DHA E EE FA GA HA I JA KAAF KHA LAAN MIIN NUUN O OO",
   "OSMANYA LETTER=QAAF RA SA SHIIN TA U WAW XA YA",
   "OTTOMAN SIYAQ ALTERNATE NUMBER SIX,PHOENICIAN NUMBER ONE=HUNDRED",
   "OTTOMAN SIYAQ ALTERNATE NUMBER TWO,OTTOMAN SIYAQ NUMBER EIGHTY=THOUSAND",
   "OTTOMAN SIYAQ ALTERNATE NUMBER=EIGHT FIVE FOUR NINE SEVEN SIX TEN THREE TWO",
   "OTTOMAN SIYAQ FRACTION ONE=HALF SIXTH",
   "OTTOMAN SIYAQ NUMBER FIFTY,OTTOMAN SIYAQ NUMBER FORTY=THOUSAND",
   "OTTOMAN SIYAQ NUMBER FIVE,OTTOMAN SIYAQ NUMBER FOUR=HUNDRED THOUSAND",
   "OTTOMAN SIYAQ NUMBER NINE,OTTOMAN SIYAQ NUMBER ONE=HUNDRED THOUSAND",
   "OTTOMAN SIYAQ NUMBER NINETY,OTTOMAN SIYAQ NUMBER SEVENTY=THOUSAND",
   "OTTOMAN SIYAQ NUMBER SEVEN,OTTOMAN SIYAQ NUMBER SIX=HUNDRED THOUSAND",
   "OTTOMAN SIYAQ NUMBER SIXTY,OTTOMAN SIYAQ NUMBER TEN=THOUSAND",
   "OTTOMAN SIYAQ NUMBER THIRTY,OTTOMAN SIYAQ NUMBER TWENTY=THOUSAND",
   "OTTOMAN SIYAQ NUMBER THREE,OTTOMAN SIYAQ NUMBER TWO,ROMAN NUMERAL FIVE=HUNDRED THOUSAND",
   "OTTOMAN SIYAQ=MARRATAN",
   "OUTLINED BLACK,OUTLINED WHITE,PINWHEEL,REVERSE LIGHT FOUR POINTED PINWHEEL=STAR",
   "OUTLINED GREEK,OUTLINED LATIN,SHADOWED WHITE LATIN=CROSS",
   "OVERLAPPING BLACK,OVERLAPPING WHITE,OVERLAPPING WHITE AND BLACK,TWO JOINED=SQUARES",
   "PAGE FACING,RIGHTWARDS HARPOON WITH BARB UP ABOVE LEFTWARDS HARPOON WITH BARB=UP",
   "PAGE WITH CIRCLED,TAMIL PUNCTUATION END OF=TEXT",
   "PAHAWH HMONG CLAN SIGN=FAJ HAM HAWJ KHAB KOO KWM LAUJ LIS MUAS PHAB THOJ TSAB TSHEEJ TSWB",
   "PAHAWH HMONG CLAN SIGN=VAJ VWJ XYOOJ YAJ YEEG",
   "PAHAWH HMONG CONSONANT=AU CAU CHAU HAU HLAU HNAU LAU MAU NAU NCHAU NKAU NLAU NTHAU NTSAU",
   "PAHAWH HMONG CONSONANT=PLHAU QHAU RAU VAU XAU YAU",
   "PAHAWH HMONG DIGIT,SAURASHTRA DIGIT,SEGMENTED DIGIT,SHARADA DIGIT=EIGHT FIVE FOUR NINE ONE",
   "PAHAWH HMONG DIGIT,SAURASHTRA DIGIT,SEGMENTED DIGIT,SHARADA DIGIT=SEVEN SIX THREE TWO ZERO",
   "PAHAWH HMONG MARK CIM=HOM KES KHAV SO SUAM TAUM TUB",
   "PAHAWH HMONG NUMBER HUNDRED=MILLIONS",
   "PAHAWH HMONG NUMBER TEN=BILLIONS THOUSANDS",
   "PAHAWH HMONG NUMBER=HUNDREDS MILLIONS TENS TRILLIONS",
   "PAHAWH HMONG SIGN CIM CUAM=TSHOOJ",
   "PAHAWH HMONG SIGN CIM HAIS LUS NTOG=NTOG",
   "PAHAWH HMONG SIGN CIM NRES=TOS",
   "PAHAWH HMONG SIGN CIM PUB=DAWB",
   "PAHAWH HMONG SIGN CIM TSOV=ROG",
   "PAHAWH HMONG SIGN CIM TXWV=CHWV",
   "PAHAWH HMONG SIGN CIM=CHEEM TXWV",
   "PAHAWH HMONG SIGN IB=YAM",
   "PAHAWH HMONG SIGN MEEJ=SUAB TSEEB",
   "PAHAWH HMONG SIGN THIRD-STAGE=HLI",
   "PAHAWH HMONG SIGN TXHEEJ=CEEV",
   "PAHAWH HMONG SIGN VOS TSHAB=CEEB",
   "PAHAWH HMONG SIGN VOS=FEEM LUB NRUA SEEV THIAB THOM",
   "PAHAWH HMONG SIGN XYEEM=FAIB NTXIV RHO TOV",
   "PAHAWH HMONG SIGN ZWJ=THAJ",
   "PAHAWH HMONG SIGN=AV HLI HNUB LOS MUS NQIG NTUJ TAU XAUS XIAB XYOO",
   "PAHAWH HMONG VOWEL=KAAB KAAV KAB KAIB KAIV KAUB KAUV KAV KAWB KAWV KEB KEEB KEEV KEV KIAB",
   "PAHAWH HMONG VOWEL=KIAV KIB KIV KOB KOOB KOOV KOV KUAB KUAV KUB KUV KWB KWV",
   "PALM=BRANCH TREE",
   "PALMYRENE LEFT-POINTING,PALMYRENE RIGHT-POINTING=FLEURON",
   "PARAGRAPH,PHOENICIAN WORD,RECORD,SYMBOL FOR FILE,SYMBOL FOR GROUP=SEPARATOR",
   "PARAGRAPHUS,PART ALTERNATION,PHAGS-PA DOUBLE HEAD,PHAGS-PA SINGLE HEAD=MARK",
   "PARALLEL WITH HORIZONTAL,PHAISTOS DISC SIGN COMBINING OBLIQUE=STROKE",
   "PARENTHESIZED HANGUL CHIEUCH,PARENTHESIZED HANGUL HIEUH=A",
   "PARENTHESIZED HANGUL IEUNG,PARENTHESIZED HANGUL KHIEUKH=A",
   "PARENTHESIZED HANGUL KIYEOK,PARENTHESIZED HANGUL MIEUM,PARENTHESIZED HANGUL NIEUN=A",
   "PARENTHESIZED HANGUL PHIEUPH,PARENTHESIZED HANGUL PIEUP=A",
   "PARENTHESIZED HANGUL RIEUL,PARENTHESIZED HANGUL SIOS,PARENTHESIZED HANGUL THIEUTH=A",
   "PARENTHESIZED HANGUL TIKEUT,PHAGS-PA LETTER SMALL,RUNIC LETTER AC=A",
   "PARENTHESIZED IDEOGRAPH=ALLIANCE CALL CONGRATULATION EARTH EIGHT ENTERPRISE FESTIVAL",
   "PARENTHESIZED IDEOGRAPH=FINANCIAL FIRE FIVE FOUR HAVE LABOR METAL MOON NAME NINE ONE REACH",
   "PARENTHESIZED IDEOGRAPH=REPRESENT RESOURCE REST SELF SEVEN SIX SOCIETY SPECIAL STOCK STUDY",
   "PARENTHESIZED IDEOGRAPH=SUN SUPERVISE TEN THREE TWO WATER WOOD",
   "PARENTHESIZED KOREAN CHARACTER=OJEON",
   "PARENTHESIZED LATIN CAPITAL LETTER,PARENTHESIZED LATIN SMALL LETTER=A B C D E F G H I J K L",
   "PARENTHESIZED LATIN CAPITAL LETTER,PARENTHESIZED LATIN SMALL LETTER=M N O P Q R S T U V W X",
   "PARENTHESIZED LATIN CAPITAL LETTER,PARENTHESIZED LATIN SMALL LETTER=Y Z",
   "PARENTHESIZED NUMBER=EIGHTEEN ELEVEN FIFTEEN FOURTEEN NINETEEN SEVENTEEN SIXTEEN TEN",
   "PARENTHESIZED NUMBER=THIRTEEN TWELVE TWENTY",
   "PARTIAL LINE=BACKWARD DOWN FORWARD UP",
   "PARTY=POPPER",
   "PASSENGER=SHIP",
   "PASSIVE-PULL-DOWN-OUTPUT,PASSIVE-PULL-UP-OUTPUT,PEACE,POTABLE WATER,POWER=SYMBOL",
   "PASSPORT=CONTROL",
   "PAU CIN HAU GLOTTAL STOP=FINAL VARIANT",
   "PAU CIN HAU LETTER FINAL=K L M N NG P T W Y",
   "PAU CIN HAU LETTER=A BA CA CHA DA E FA GA HA I IA KA KHA LA MA NA NGA O PA PHA RA SA TA THA",
   "PAU CIN HAU LETTER=U UA VA ZA",
   "PAU CIN HAU LOW-FALLING TONE LONG,PAU CIN HAU MID-LEVEL TONE=FINAL",
   "PAU CIN HAU LOW-FALLING TONE,PAU CIN HAU RISING TONE,PAU CIN HAU SANDHI TONE=FINAL LONG",
   "PAU CIN HAU MID-LEVEL TONE LONG,PAU CIN HAU RISING TONE LONG=FINAL",
   "PAU CIN HAU RISING,PAU CIN HAU SANDHI,TOTO SIGN RISING=TONE",
   "PAU CIN HAU SANDHI GLOTTAL STOP,PAU CIN HAU SANDHI TONE LONG=FINAL",
   "PAW=PRINTS",
   "PENSIVE,PERSEVERING,PERSON WITH POUTING,POSTAL MARK,POUTING,POUTING CAT,RABBIT=FACE",
   "PEOPLE=HUGGING",
   "PERFORMING=ARTS",
   "PERMANENT PAPER,PESETA,PESO,PILCROW,PLACE OF INTEREST,PLUS=SIGN",
   "PERPENDICULAR WITH,RUNIC LETTER SHORT-TWIG-SOL,RUNIC LETTER SIGEL LONG-BRANCH-SOL=S",
   "PERSON BOWING=DEEPLY",
   "PERSON DOING=CARTWHEEL",
   "PERSON IN LOTUS=POSITION",
   "PERSON IN STEAMY=ROOM",
   "PERSON RAISING BOTH HANDS IN=CELEBRATION",
   "PERSON WITH BLOND=HAIR",
   "PERSON WITH=BALL CROWN HEADSCARF",
   "PERSON=CLIMBING FROWNING",
   "PHAGS-PA LETTER ASPIRATED=FA",
   "PHAGS-PA LETTER=A BA CA CANDRABINDU CHA DA DDA DZA E EE FA GA GGA HA I JA KA KHA LA MA NA",
   "PHAGS-PA LETTER=NGA NNA NYA O PA PHA QA RA SA SHA TA THA TSA TSHA TTA TTHA U WA XA YA ZA ZHA",
   "PHAISTOS DISC SIGN CARPENTRY=PLANE",
   "PHAISTOS DISC SIGN PLUMED,PHAISTOS DISC SIGN TATTOOED=HEAD",
   "PHAISTOS DISC SIGN SMALL=AXE",
   "PHAISTOS DISC SIGN WAVY=BAND",
   "PHAISTOS DISC SIGN=ARROW BEE BEEHIVE BOOMERANG BOW CAPTIVE CAT CHILD CLUB COLUMN COMB DOLIUM",
   "PHAISTOS DISC SIGN=DOVE EAGLE FLUTE GAUNTLET GRATER HELMET HIDE HORN LID LILY MANACLES",
   "PHAISTOS DISC SIGN=MATTOCK PAPYRUS PEDESTRIAN RAM ROSETTE SAW SHIELD SHIP SLING STRAINER",
   "PHAISTOS DISC SIGN=TIARA TUNNY VINE WOMAN",
   "PHOENICIAN LETTER=AIN ALF BET DELT GAML HE HET KAF LAMD MEM NUN PE QOF ROSH SADE SEMK SHIN",
   "PHOENICIAN LETTER=TAU TET WAU YOD ZAI",
   "PIG=FACE NOSE",
   "PINCHED,RAISED HAND WITH PART BETWEEN MIDDLE AND RING=FINGERS",
   "PINE=DECORATION",
   "PITCHFORK WITH TEE=TOP",
   "PLACE OF=WORSHIP",
   "PLANCK CONSTANT OVER TWO=PI",
   "PLAYGROUND=SLIDE",
   "PLAYING CARD ACE OF,PLAYING CARD EIGHT OF,PLAYING CARD FIVE OF=CLUBS DIAMONDS HEARTS SPADES",
   "PLAYING CARD BLACK,PLAYING CARD RED,PLAYING CARD WHITE=JOKER",
   "PLAYING CARD FOUR OF,PLAYING CARD JACK OF,PLAYING CARD KING OF=CLUBS DIAMONDS HEARTS SPADES",
   "PLAYING CARD KNIGHT OF,PLAYING CARD NINE OF,PLAYING CARD QUEEN OF=CLUBS DIAMONDS HEARTS",
   "PLAYING CARD KNIGHT OF,PLAYING CARD NINE OF,PLAYING CARD QUEEN OF=SPADES",
   "PLAYING CARD SEVEN OF,PLAYING CARD SIX OF,PLAYING CARD TEN OF=CLUBS DIAMONDS HEARTS SPADES",
   "PLAYING CARD THREE OF,PLAYING CARD TWO OF=CLUBS DIAMONDS HEARTS SPADES",
   "PLAYING CARD=BACK FOOL TRUMP-1 TRUMP-10 TRUMP-11 TRUMP-12 TRUMP-13 TRUMP-14 TRUMP-15",
   "PLAYING CARD=TRUMP-16 TRUMP-17 TRUMP-18 TRUMP-19 TRUMP-2 TRUMP-20 TRUMP-21 TRUMP-3 TRUMP-4",
   "PLAYING CARD=TRUMP-5 TRUMP-6 TRUMP-7 TRUMP-8 TRUMP-9",
   "PLUS SIGN ABOVE EQUALS,PLUS-MINUS,POUND,PRECEDES ABOVE EQUALS=SIGN",
   "PLUS SIGN IN RIGHT HALF,RIGHT ARROW WITH SMALL,SIGNWRITING HEAD MOVEMENT=CIRCLE",
   "PLUS SIGN WITH CIRCUMFLEX ACCENT,PLUS SIGN WITH SMALL CIRCLE=ABOVE",
   "PLUTO FORM=FIVE FOUR THREE TWO",
   "POCKET=CALCULATOR",
   "POLICE=CAR OFFICER",
   "POP DIRECTIONAL=FORMATTING ISOLATE",
   "PORTABLE=STEREO",
   "POSTAL=HORN MARK",
   "POTTED=PLANT",
   "POURING=LIQUID",
   "POWER ON,POWER ON-OFF,POWER SLEEP,PRINT SCREEN,PUT LITTER IN ITS PLACE=SYMBOL",
   "PRAYER=BEADS",
   "PRECEDES ABOVE ALMOST EQUAL,PRECEDES ABOVE NOT ALMOST EQUAL=TO",
   "PRECEDES ABOVE NOT EQUAL,PRECEDES ABOVE SINGLE-LINE NOT EQUAL=TO",
   "PRECEDES ABOVE SINGLE-LINE EQUALS,PROHIBITED,RADIOACTIVE,RAISED MC,RAISED MD=SIGN",
   "PRECEDES BUT NOT EQUIVALENT,PRECEDES OR EQUAL,PRECEDES OR EQUIVALENT=TO",
   "PRECEDES UNDER,SUCCEEDS UNDER,TRIPLE SOLIDUS BINARY=RELATION",
   "PREGNANT=MAN PERSON WOMAN",
   "PRESCRIPTION=TAKE",
   "PRESENTATION FORM FOR VERTICAL EN,RIGHTWARDS HARPOON WITH BARB DOWN BELOW LONG=DASH",
   "PRESENTATION FORM FOR VERTICAL EXCLAMATION=MARK",
   "PRESENTATION FORM FOR VERTICAL HORIZONTAL,UP RIGHT DIAGONAL=ELLIPSIS",
   "PRESENTATION FORM FOR VERTICAL IDEOGRAPHIC FULL,SIGNWRITING FULL,SMALL FULL=STOP",
   "PRESENTATION FORM FOR VERTICAL IDEOGRAPHIC,SMALL IDEOGRAPHIC,VAI=COMMA",
   "PRESENTATION FORM FOR VERTICAL LEFT ANGLE=BRACKET",
   "PRESENTATION FORM FOR VERTICAL LEFT BLACK LENTICULAR=BRACKET",
   "PRESENTATION FORM FOR VERTICAL LEFT CORNER=BRACKET",
   "PRESENTATION FORM FOR VERTICAL LEFT CURLY=BRACKET",
   "PRESENTATION FORM FOR VERTICAL LEFT DOUBLE ANGLE=BRACKET",
   "PRESENTATION FORM FOR VERTICAL LEFT SQUARE=BRACKET",
   "PRESENTATION FORM FOR VERTICAL LEFT TORTOISE SHELL=BRACKET",
   "PRESENTATION FORM FOR VERTICAL LEFT WHITE CORNER=BRACKET",
   "PRESENTATION FORM FOR VERTICAL LEFT WHITE LENTICULAR=BRACKET",
   "PRESENTATION FORM FOR VERTICAL LOW,PRESENTATION FORM FOR VERTICAL WAVY LOW=LINE",
   "PRESENTATION FORM FOR VERTICAL QUESTION,PSALTER PAHLAVI SECTION=MARK",
   "PRESENTATION FORM FOR VERTICAL RIGHT ANGLE=BRACKET",
   "PRESENTATION FORM FOR VERTICAL RIGHT BLACK LENTICULAR=BRACKET",
   "PRESENTATION FORM FOR VERTICAL RIGHT CORNER=BRACKET",
   "PRESENTATION FORM FOR VERTICAL RIGHT CURLY=BRACKET",
   "PRESENTATION FORM FOR VERTICAL RIGHT DOUBLE ANGLE=BRACKET",
   "PRESENTATION FORM FOR VERTICAL RIGHT SQUARE=BRACKET",
   "PRESENTATION FORM FOR VERTICAL RIGHT TORTOISE SHELL=BRACKET",
   "PRESENTATION FORM FOR VERTICAL RIGHT WHITE CORNER,RIGHT ANGLE=BRACKET",
   "PRESENTATION FORM FOR VERTICAL RIGHT WHITE LENTICULAR=BRACKET BRAKCET",
   "PRESENTATION FORM FOR VERTICAL RIGHT,RIGHT DOUBLE,RIGHT WHITE=PARENTHESIS",
   "PRESENTATION FORM FOR VERTICAL=COLON COMMA SEMICOLON",
   "PREVIOUS,TELEPHONE RECEIVER WITH=PAGE",
   "PRIVACY=MESSAGE",
   "PRIVATE USE=ONE TWO",
   "PRIVATE=USE-1 USE-2",
   "PROBING=CANE",
   "PROPERTY,RIGHT VERTICAL BOX,TAG LOW,TAG VERTICAL,VERTICAL ZIGZAG,WAVY LOW=LINE",
   "PROPORTIONAL,QUESTIONED EQUAL,RIGHTWARDS ARROW ABOVE ALMOST EQUAL=TO",
   "PSALTER PAHLAVI FOUR DOTS WITH=CROSS DOT",
   "PSALTER PAHLAVI LETTER=ALEPH BETH DALETH GIMEL HE HETH KAPH LAMEDH MEM-QOPH NUN PE SADHE",
   "PSALTER PAHLAVI LETTER=SAMEKH SHIN TAW WAW-AYIN-RESH YODH ZAYIN",
   "PSALTER PAHLAVI NUMBER ONE,ROMAN NUMERAL REVERSED ONE,RUMI NUMBER EIGHT=HUNDRED",
   "PSALTER PAHLAVI NUMBER=FOUR ONE TEN THREE TWENTY TWO",
   "PSALTER PAHLAVI TURNED SECTION,PUNCTUS ELEVATUS,QUESTION,QUESTION EXCLAMATION=MARK",
   "PUBLIC ADDRESS=LOUDSPEAKER",
   "QUADRANT LOWER,QUADRANT UPPER,QUADRANT UPPER LEFT AND UPPER RIGHT AND LOWER=LEFT RIGHT",
   "QUADRANT UPPER LEFT AND LOWER,QUADRANT UPPER LEFT AND LOWER LEFT AND LOWER=RIGHT",
   "QUADRANT UPPER RIGHT AND LOWER LEFT AND LOWER=RIGHT",
   "QUADRUPLE,REVERSED DOUBLE,REVERSED TRIPLE=PRIME",
   "QUOTATION,REFERENCE,REJANG SECTION,REVERSED DOUBLE PRIME QUOTATION=MARK"]

def rowsFromR : List String :=
  ["RACING=CAR MOTORCYCLE",
   "RADICAL SYMBOL,TRIANGLE WITH SERIFS AT=BOTTOM",
   "RADIO,WHITE SQUARE=BUTTON",
   "RAILWAY=CAR TRACK",
   "RAISED BACK OF,REVERSED VICTORY,VICTORY,WRITING=HAND",
   "RAISED HAND WITH FINGERS,REVERSED RAISED HAND WITH FINGERS=SPLAYED",
   "RAISED INTERPOLATION,RIGHT ANGLE DOTTED SUBSTITUTION=MARKER",
   "RAISED MR,REGISTERED,REVERSED DOUBLE STROKE NOT,REVERSED NOT,REVERSED PILCROW=SIGN",
   "RAISED=COMMA DOT FIST HAND SQUARE",
   "RECREATIONAL=VEHICLE",
   "RECYCLED PAPER,RUNIC ARLAUG,RUNIC BELGTHOR,RUNIC TVIMADUR,SEPARATED,SMOKING=SYMBOL",
   "RECYCLING SYMBOL FOR GENERIC=MATERIALS",
   "RECYCLING SYMBOL FOR TYPE-1,RECYCLING SYMBOL FOR TYPE-2=PLASTICS",
   "RECYCLING SYMBOL FOR TYPE-3,RECYCLING SYMBOL FOR TYPE-4=PLASTICS",
   "RECYCLING SYMBOL FOR TYPE-5,RECYCLING SYMBOL FOR TYPE-6=PLASTICS",
   "RECYCLING SYMBOL FOR TYPE-7=PLASTICS",
   "RED=APPLE",
   "REGIONAL INDICATOR SYMBOL LETTER,SQUARED LATIN CAPITAL LETTER=A B C D E F G H I J K L M N O",
   "REGIONAL INDICATOR SYMBOL LETTER,SQUARED LATIN CAPITAL LETTER=P Q R S T U V W X Y Z",
   "REJANG CONSONANT SIGN=H N NG R",
   "REJANG LETTER=A BA CA DA GA HA JA KA LA MA MBA NA NDA NGA NGGA NYA NYJA PA RA SA TA WA YA",
   "REJANG VOWEL SIGN=AI AU E EA EU I O U",
   "REJANG=VIRAMA",
   "RELIEVED,ROBOT,SALUTING,SLEEPY,SLIGHTLY FROWNING,SLIGHTLY SMILING,SMIRKING=FACE",
   "REMINDER=RIBBON",
   "RESTRICTED LEFT=ENTRY-1 ENTRY-2",
   "RETURN=LEFT RIGHT SYMBOL",
   "REVERSE SOLIDUS PRECEDING,SUPERSET BESIDE=SUBSET",
   "REVERSE SOLIDUS WITH HORIZONTAL,RIGHT SQUARE BRACKET WITH DOUBLE=STROKE",
   "REVERSE SOLIDUS,RIGHTWARDS ARROW ABOVE REVERSE TILDE=OPERATOR",
   "REVERSE TILDE OPERATOR ABOVE LEFTWARDS=ARROW",
   "REVERSE TILDE OPERATOR ABOVE RIGHTWARDS,RIGHT ANGLE WITH DOWNWARDS ZIGZAG=ARROW",
   "REVERSE=INDEX SOLIDUS",
   "REVERSED ANGLE WITH,SHORT UP TACK WITH,SMALL VEE WITH,TRIANGLE WITH=UNDERBAR",
   "REVERSED HAND WITH MIDDLE FINGER=EXTENDED",
   "REVERSED QUESTION,RIGHT DOUBLE QUOTATION,RIGHT SINGLE QUOTATION=MARK",
   "REVERSED SANS-SERIF CAPITAL,RUNIC LETTER LAUKAZ LAGU LOGR=L",
   "REVERSED THUMBS DOWN,REVERSED THUMBS UP,RIAL,RIGHT-FACING ARMENIAN ETERNITY=SIGN",
   "REVERSED TILDE=EQUALS",
   "REVERSED=ANGLE COMMA PRIME SEMICOLON TILDE",
   "REVOLVING,SMILING FACE WITH SMILING EYES AND THREE,TWO=HEARTS",
   "RIBBON ARROW DOWN,RIBBON ARROW UP,STICK FIGURE LEANING,SYRIAC COLON SKEWED=LEFT RIGHT",
   "RIBBON ARROW LEFT,RIBBON ARROW RIGHT,SIGNWRITING DREAMY EYEBROWS NEUTRAL=DOWN UP",
   "RICE=BALL CRACKER",
   "RIGHT AND UPPER ONE EIGHTH,RIGHT FIVE EIGHTHS,RIGHT ONE EIGHTH=BLOCK",
   "RIGHT ANGLE BRACKET WITH,RIGHT OPEN SQUARED,SESAME,SIX POINTED STAR WITH MIDDLE=DOT",
   "RIGHT ANGLE SUBSTITUTION=MARKER",
   "RIGHT ARC GREATER-THAN,RIGHT BLACK LENTICULAR,RIGHT BLACK TORTOISE SHELL=BRACKET",
   "RIGHT CORNER,RIGHT CURLY,RIGHT DOTTED SUBSTITUTION,RIGHT DOUBLE ANGLE=BRACKET",
   "RIGHT CURLY BRACKET UPPER,RIGHT PARENTHESIS LOWER,RIGHT PARENTHESIS UPPER=HOOK",
   "RIGHT DOUBLE ARROW WITH ROUNDED,SHOCKED FACE WITH EXPLODING=HEAD",
   "RIGHT HALF RUNNING=MAN",
   "RIGHT HALF=BLOCK FOLDER",
   "RIGHT LOW PARAPHRASE,RIGHT RAISED OMISSION,RIGHT SIDEWAYS U,RIGHT SQUARE=BRACKET",
   "RIGHT ONE QUARTER,RIGHT SEVEN EIGHTHS,RIGHT THREE EIGHTHS=BLOCK",
   "RIGHT SPEECH,RIGHT THOUGHT=BUBBLE",
   "RIGHT SQUARE BRACKET WITH TICK IN BOTTOM=CORNER",
   "RIGHT SQUARE BRACKET WITH TICK IN TOP,SOUTH EAST ARROW TO=CORNER",
   "RIGHT SUBSTITUTION,RIGHT TORTOISE SHELL,RIGHT TRANSPOSITION=BRACKET",
   "RIGHT THIRD WHITE RIGHT POINTING,SIDEWAYS BLACK DOWN POINTING=INDEX",
   "RIGHT THREE QUARTERS,RIGHT TRIANGULAR ONE QUARTER=BLOCK",
   "RIGHT TRIANGLE ABOVE LEFT,S IN,UP-POINTING RED,UP-POINTING SMALL RED=TRIANGLE",
   "RIGHT WHITE CORNER,RIGHT WHITE CURLY,RIGHT WHITE LENTICULAR=BRACKET",
   "RIGHT WHITE SQUARE,RIGHT WHITE TORTOISE SHELL,RIGHT-POINTING ANGLE=BRACKET",
   "RIGHT-FACING SVASTI,ROMAN AS,ROMAN CENTURIAL,ROMAN DENARIUS=SIGN",
   "RIGHT-POINTING CURVED ANGLE,SMALL LEFT CURLY,SMALL LEFT TORTOISE SHELL=BRACKET",
   "RIGHT-POINTING DOUBLE ANGLE QUOTATION,SAMARITAN ABBREVIATION,SERVICE=MARK",
   "RIGHT-SHADED WHITE RIGHTWARDS,RIGHT-SIDE ARC CLOCKWISE=ARROW",
   "RIGHT=ANGLE CEILING FLOOR PARENTHESIS SPEAKER TACK TRIANGLE",
   "RIGHTHAND INTERIOR,SHUFFLE,SMASH,VECTOR OR CROSS,WREATH=PRODUCT",
   "RIGHTWARDS ARROW ABOVE REVERSE ALMOST EQUAL,RING EQUAL,RING IN EQUAL=TO",
   "RIGHTWARDS ARROW ABOVE SHORT LEFTWARDS,RIGHTWARDS ARROW OVER LEFTWARDS=ARROW",
   "RIGHTWARDS ARROW ABOVE TILDE,SQUARE LEFT OPEN BOX,SQUARE RIGHT OPEN BOX=OPERATOR",
   "RIGHTWARDS ARROW AND UPPER AND LOWER ONE EIGHTH=BLOCK",
   "RIGHTWARDS ARROW FROM BAR TO BLACK,RIGHTWARDS ARROW TO BLACK,SMALL BLUE=DIAMOND",
   "RIGHTWARDS ARROW FROM,RIGHTWARDS ARROW TO,RIGHTWARDS DOUBLE ARROW FROM=BAR",
   "RIGHTWARDS ARROW THROUGH=GREATER-THAN SUPERSET X",
   "RIGHTWARDS ARROW WITH DOUBLE VERTICAL=STROKE",
   "RIGHTWARDS ARROW WITH EQUILATERAL,RIGHTWARDS ARROW WITH LARGE TRIANGLE=ARROWHEAD",
   "RIGHTWARDS ARROW WITH MEDIUM TRIANGLE=ARROWHEAD",
   "RIGHTWARDS ARROW WITH NOTCHED,RIGHTWARDS TWO-HEADED ARROW WITH=TAIL",
   "RIGHTWARDS ARROW WITH PLUS,SOGDIAN COMBINING LONG HOOK,SOGDIAN COMBINING RESH=BELOW",
   "RIGHTWARDS ARROW WITH SMALL EQUILATERAL=ARROWHEAD",
   "RIGHTWARDS ARROW WITH SMALL TRIANGLE,RIGHTWARDS TRIANGLE=ARROWHEAD",
   "RIGHTWARDS ARROW WITH TAIL WITH DOUBLE VERTICAL=STROKE",
   "RIGHTWARDS ARROW WITH TAIL WITH VERTICAL,RIGHTWARDS ARROW WITH VERTICAL=STROKE",
   "RIGHTWARDS BACK-TILTED SHADOWED WHITE,RIGHTWARDS BLACK=ARROW",
   "RIGHTWARDS BLACK CIRCLED WHITE,RIGHTWARDS BOTTOM SHADED WHITE=ARROW",
   "RIGHTWARDS COMPRESSED,RIGHTWARDS DASHED,RIGHTWARDS DOUBLE DASH=ARROW",
   "RIGHTWARDS DOUBLE ARROW WITH,RIGHTWARDS DOUBLE ARROW WITH VERTICAL=STROKE",
   "RIGHTWARDS FINGER-POST,RIGHTWARDS FRONT-TILTED SHADOWED WHITE=ARROW",
   "RIGHTWARDS HARPOON WITH BARB DOWN ABOVE LEFTWARDS HARPOON WITH BARB=DOWN",
   "RIGHTWARDS HARPOON WITH BARB DOWN FROM,RIGHTWARDS HARPOON WITH BARB DOWN TO=BAR",
   "RIGHTWARDS HARPOON WITH BARB UP ABOVE LONG,SMALL EM,SWUNG,THREE-EM,TWO-EM,WAVE=DASH",
   "RIGHTWARDS HARPOON WITH BARB UP ABOVE RIGHTWARDS HARPOON WITH BARB=DOWN",
   "RIGHTWARDS HARPOON WITH BARB UP FROM,RIGHTWARDS HARPOON WITH BARB UP TO=BAR",
   "RIGHTWARDS HARPOON WITH BARB=DOWNWARDS UPWARDS",
   "RIGHTWARDS HEAVY,RIGHTWARDS HEAVY COMPRESSED,RIGHTWARDS LEFT-SHADED WHITE=ARROW",
   "RIGHTWARDS OPEN-HEADED,RIGHTWARDS QUADRUPLE,RIGHTWARDS RIGHT-SHADED WHITE=ARROW",
   "RIGHTWARDS SANS-SERIF,RIGHTWARDS SQUARED,RIGHTWARDS SQUIGGLE=ARROW",
   "RIGHTWARDS TOP SHADED WHITE,RIGHTWARDS TRIANGLE-HEADED=ARROW",
   "RIGHTWARDS TRIANGLE-HEADED ARROW OVER LEFTWARDS TRIANGLE-HEADED=ARROW",
   "RIGHTWARDS TRIANGLE-HEADED ARROW TO,RIGHTWARDS TWO-HEADED ARROW FROM=BAR",
   "RIGHTWARDS TRIANGLE-HEADED ARROW WITH BOLD=SHAFT",
   "RIGHTWARDS TRIANGLE-HEADED ARROW WITH DOUBLE HORIZONTAL=STROKE",
   "RIGHTWARDS TRIANGLE-HEADED ARROW WITH DOUBLE VERTICAL=STROKE",
   "RIGHTWARDS TRIANGLE-HEADED ARROW WITH HEAVY=SHAFT",
   "RIGHTWARDS TRIANGLE-HEADED ARROW WITH LONG TIP=DOWNWARDS UPWARDS",
   "RIGHTWARDS TRIANGLE-HEADED ARROW WITH MEDIUM=SHAFT",
   "RIGHTWARDS TRIANGLE-HEADED ARROW WITH NARROW=SHAFT",
   "RIGHTWARDS TRIANGLE-HEADED ARROW WITH VERY HEAVY=SHAFT",
   "RIGHTWARDS TRIANGLE-HEADED DASHED,RIGHTWARDS TRIPLE,RIGHTWARDS TRIPLE DASH=ARROW",
   "RIGHTWARDS TRIANGLE-HEADED PAIRED,THREE LEFTWARDS,THREE RIGHTWARDS=ARROWS",
   "RIGHTWARDS TWO HEADED,RIGHTWARDS TWO-HEADED TRIPLE DASH,RIGHTWARDS WAVE=ARROW",
   "RIGHTWARDS TWO-HEADED ARROW WITH DOUBLE VERTICAL=STROKE",
   "RIGHTWARDS TWO-HEADED ARROW WITH TAIL WITH DOUBLE VERTICAL=STROKE",
   "RIGHTWARDS TWO-HEADED ARROW WITH TAIL WITH VERTICAL=STROKE",
   "RIGHTWARDS TWO-HEADED ARROW WITH TRIANGLE=ARROWHEADS",
   "RIGHTWARDS TWO-HEADED ARROW WITH VERTICAL=STROKE",
   "RIGHTWARDS WHITE ARROW FROM,SIGNWRITING MOVEMENT-WALLPLANE CURVE HITTING FRONT=WALL",
   "RIGHTWARDS WHITE ARROW WITHIN TRIANGLE,THREE-D BOTTOM-LIGHTED RIGHTWARDS=ARROWHEAD",
   "RIGHTWARDS WHITE,RISING DIAGONAL CROSSING SOUTH EAST,SHORT BACKSLANTED SOUTH=ARROW",
   "RING=ABOVE BUOY OPERATOR POINT",
   "RINGED=PLANET",
   "RISING DIAGONAL CROSSING FALLING=DIAGONAL",
   "ROASTED SWEET=POTATO",
   "ROLL OF=PAPER",
   "ROLLED-UP=NEWSPAPER",
   "ROLLER=COASTER SKATE",
   "ROLLING ON THE FLOOR=LAUGHING",
   "ROMAN DIMIDIA SEXTULA,ROMAN DUPONDIUS,ROMAN QUINARIUS,ROMAN SEMUNCIA=SIGN",
   "ROMAN NUMERAL FIFTY,ROMAN NUMERAL ONE HUNDRED,ROMAN NUMERAL TEN=THOUSAND",
   "ROMAN NUMERAL ONE THOUSAND C,RUNIC LETTER DAGAZ DAEG,SQUARED LATIN SMALL LETTER=D",
   "ROMAN NUMERAL ONE,SINHALA ARCHAIC NUMBER ONE,SMALL ROMAN NUMERAL ONE=HUNDRED THOUSAND",
   "ROMAN NUMERAL SIX LATE,YEZIDI LETTER VA ALTERNATE=FORM",
   "ROMAN NUMERAL,SMALL ROMAN NUMERAL=EIGHT ELEVEN FIFTY FIVE FOUR NINE ONE SEVEN SIX TEN THREE",
   "ROMAN NUMERAL,SMALL ROMAN NUMERAL=TWELVE TWO",
   "ROMAN SESTERTIUS,ROMAN SEXTANS,ROMAN SEXTULA,ROMAN SILIQUA,ROMAN UNCIA,RUBLE=SIGN",
   "ROTATED CAPITAL=Q",
   "ROTATED FLORAL HEART,ROTATED HEAVY BLACK HEART=BULLET",
   "ROTATED LIGHT FOUR POINTED BLACK,ROTATED WHITE FOUR POINTED=CUSP",
   "ROUND=PUSHPIN TARGET",
   "ROUNDED SYMBOL FOR=CAI FU LU SHOU SHUANGXI XI",
   "RUMI DIGIT,SINHALA ARCHAIC DIGIT=EIGHT FIVE FOUR NINE ONE SEVEN SIX THREE TWO",
   "RUMI FRACTION ONE=HALF QUARTER THIRD",
   "RUMI FRACTION TWO,VULGAR FRACTION ZERO,WHITE ARROW SHAFT WIDTH TWO=THIRDS",
   "RUMI NUMBER FIVE,RUMI NUMBER FOUR,RUMI NUMBER NINE,RUMI NUMBER ONE=HUNDRED",
   "RUMI NUMBER SEVEN,RUMI NUMBER SIX,RUMI NUMBER THREE,RUMI NUMBER TWO=HUNDRED",
   "RUNIC LETTER ALGIZ=EOLHX",
   "RUNIC LETTER ANSUZ,RUNIC LETTER SHORT-TWIG-AR,SAMARITAN MODIFIER LETTER SHORT=A",
   "RUNIC LETTER BERKANAN BEORC BJARKAN,RUNIC LETTER SHORT-TWIG-BJARKAN=B",
   "RUNIC LETTER FRANKS CASKET=AC AESC EH IS OS",
   "RUNIC LETTER HAGLAZ,RUNIC LETTER LONG-BRANCH-HAGALL=H",
   "RUNIC LETTER ISAZ IS ISS,SAMARITAN MODIFIER LETTER=I",
   "RUNIC LETTER IWAZ=EOH",
   "RUNIC LETTER LONG-BRANCH-AR=AE",
   "RUNIC LETTER LONG-BRANCH-MADR,RUNIC LETTER MANNAZ MAN=M",
   "RUNIC LETTER LONG-BRANCH-OSS,RUNIC LETTER OS,RUNIC LETTER OTHALAN ETHEL=O",
   "RUNIC LETTER NAUDIZ NYD NAUD,RUNIC LETTER SHORT-TWIG-NAUD=N",
   "RUNIC LETTER RAIDO RAD REID=R",
   "RUNIC LETTER SHORT-TWIG-HAGALL=H",
   "RUNIC LETTER SHORT-TWIG-MADR,SQUARE A OVER,SQUARE V OVER=M",
   "RUNIC LETTER SHORT-TWIG-OSS=O",
   "RUNIC LETTER SOWILO,SQUARE M OVER,SQUARE RAD OVER=S",
   "RUNIC LETTER THURISAZ THURS=THORN",
   "RUNIC LETTER TIWAZ TIR TYR=T",
   "RUNIC LETTER WUNJO WYNN=W",
   "RUNIC LETTER=AESC C CALC CEALC CEN CWEORTH D DOTTED-L DOTTED-N DOTTED-P E EAR ENG ETH G GAR",
   "RUNIC LETTER=GER ICELANDIC-YR ING INGWAZ IOR K KAUNA LONG-BRANCH-YR O OE ON OO OPEN-P Q SH",
   "RUNIC LETTER=SHORT-TWIG-YR STAN V W X Y YR Z",
   "RUNIC MULTIPLE,RUNIC SINGLE,SMALL TWO DOTS OVER ONE DOT=PUNCTUATION",
   "RUNNING SHIRT WITH=SASH",
   "RUPEE,SECTION,SHARADA ABBREVIATION,SHARADA CONTINUATION=SIGN",
   "RUSSIAN ASTROLOGICAL SYMBOL=BINOVILE NOVILE QUINTILE SENTAGON TREDECILE VIGINTILE",
   "SAFETY=PIN VEST",
   "SAKE BOTTLE AND=CUP",
   "SALT=SHAKER",
   "SAMARITAN LETTER=ALAF BAA BIT DALAT FI GAMAN IN IT IY KAAF LABAT MIM NUN QUF RISH SHAN",
   "SAMARITAN LETTER=SINGAAT TAAF TIT TSAADIY YUT ZEN",
   "SAMARITAN MARK EPENTHETIC,SAMARITAN MODIFIER LETTER EPENTHETIC=YUT",
   "SAMARITAN MARK=DAGESH IN IN-ALAF NEQUDAA OCCLUSION",
   "SAMARITAN PUNCTUATION MELODIC=QITSA",
   "SAMARITAN PUNCTUATION SOF=MASHFAAT",
   "SAMARITAN PUNCTUATION=AFSAAQ ANGED ANNAAU ARKAANU ATMAAU BAU NEQUDAA QITSA SHIYYAALAA TURU",
   "SAMARITAN PUNCTUATION=ZAEF ZIQAA",
   "SAMARITAN VOWEL SIGN LONG=A AA E I U",
   "SAMARITAN VOWEL SIGN OVERLONG=A AA",
   "SAMARITAN VOWEL SIGN SHORT,TIBETAN MARK GTER YIG MGO TRUNCATED=A",
   "SAMARITAN VOWEL SIGN=A AA E I O SUKUN U",
   "SANS-SERIF HEAVY DOUBLE COMMA QUOTATION MARK=ORNAMENT",
   "SANS-SERIF HEAVY DOUBLE TURNED COMMA QUOTATION MARK=ORNAMENT",
   "SANS-SERIF HEAVY LOW DOUBLE COMMA QUOTATION MARK,SANS-SERIF INTERROBANG=ORNAMENT",
   "SATELLITE=ANTENNA",
   "SAURASHTRA CONSONANT SIGN=HAARU",
   "SAURASHTRA LETTER=A AA AI AU BA BHA CA CHA DA DDA DDHA DHA E EE GA GHA HA I II JA JHA KA KHA",
   "SAURASHTRA LETTER=LA LLA MA NA NGA NNA NYA O OO PA PHA RA SA SHA SSA TA THA TTA TTHA U UU VA",
   "SAURASHTRA LETTER=YA",
   "SAURASHTRA SIGN,ZANABAZAR SQUARE SIGN=ANUSVARA CANDRABINDU VIRAMA VISARGA",
   "SCHOOL=SATCHEL",
   "SCRIPT CAPITAL=B E F H I L M P R",
   "SCRIPT LIGATURE ET,SOLID QUILT SQUARE,SWASH AMPERSAND=ORNAMENT",
   "SCRIPT SMALL=E G L O",
   "SEMIDIRECT PRODUCT WITH BOTTOM=CLOSED",
   "SERIOUS FACE WITH SYMBOLS COVERING,SIGNWRITING TONGUE CENTRE INSIDE=MOUTH",
   "SET TRANSMIT=STATE",
   "SET,TOP ARC CLOCKWISE ARROW WITH=MINUS",
   "SEWING=NEEDLE",
   "SHARADA DOUBLE,SIDDHAM,SIDDHAM DOUBLE=DANDA",
   "SHARADA EXTRA SHORT VOWEL,SHARADA SANDHI,SHARADA SUTRA,SHARADA VOWEL MODIFIER=MARK",
   "SHARADA LETTER VOCALIC,SHARADA VOWEL SIGN VOCALIC,SIDDHAM LETTER VOCALIC=L LL R RR",
   "SHARADA SIGN INVERTED=CANDRABINDU",
   "SHARADA VOWEL SIGN PRISHTHAMATRA=E",
   "SHARADA=DANDA EKAM HEADSTROKE OM SEPARATOR",
   "SHAVED=ICE",
   "SHAVIAN LETTER=ADO AGE AH AIR ARE ARRAY ASH AWE BIB CHURCH DEAD EAR EAT EGG ERR FEE GAG",
   "SHAVIAN LETTER=HA-HA HUNG IAN ICE IF JUDGE KICK LOLL MEASURE MIME NUN OAK OIL ON OOZE OR OUT",
   "SHAVIAN LETTER=PEEP ROAR SO SURE THEY THIGH TOT UP VOW WOE WOOL YEA YEW ZOO",
   "SHIFT,SIGNWRITING HAND-ANGLE INDEX THUMB=IN OUT",
   "SHINTO=SHRINE",
   "SHOOTING,SIX POINTED BLACK,SIX POINTED PINWHEEL,STRESS OUTLINED WHITE=STAR",
   "SHOPPING=BAGS TROLLEY",
   "SHORT BENT ARROW POINTING DOWNWARDS THEN NORTH=EAST",
   "SHORT RIGHTWARDS ARROW ABOVE LEFTWARDS,SHORT SLANTED NORTH,SOUTH EAST=ARROW",
   "SHORT UP TACK ABOVE SHORT DOWN=TACK",
   "SHORTHAND FORMAT CONTINUING,SHORTHAND FORMAT LETTER=OVERLAP",
   "SHORTHAND FORMAT DOWN,SHORTHAND FORMAT UP=STEP",
   "SIDDHAM END OF TEXT,SINGLE HIGH-REVERSED-9 QUOTATION=MARK",
   "SIDDHAM LETTER ALTERNATE=U",
   "SIDDHAM LETTER THREE-CIRCLE ALTERNATE,ZANABAZAR SQUARE VOWEL SIGN REVERSED=I",
   "SIDDHAM LETTER TWO-CIRCLE ALTERNATE,TIBETAN VOWEL SIGN REVERSED=I II",
   "SIDDHAM REPETITION=MARK-1 MARK-2 MARK-3",
   "SIDDHAM SECTION MARK WITH CIRCLES AND FOUR=ENCLOSURES",
   "SIDDHAM SECTION MARK WITH CIRCLES AND TWO=ENCLOSURES",
   "SIDDHAM SECTION MARK WITH CIRCLES AND,WHITE SUN WITH=RAYS",
   "SIDDHAM SECTION MARK WITH DOUBLE,SIDDHAM SECTION MARK WITH QUADRUPLE=CRESCENTS",
   "SIDDHAM SECTION MARK WITH RAYS AND DOTTED DOUBLE=CRESCENTS",
   "SIDDHAM SECTION MARK WITH RAYS AND DOTTED TRIPLE=CRESCENTS",
   "SIDDHAM SECTION MARK WITH RAYS AND DOTTED=CRESCENTS",
   "SIDDHAM SECTION MARK WITH SEPTUPLE=CRESCENTS",
   "SIDDHAM SECTION MARK WITH TRIDENT AND DOTTED=CRESCENTS",
   "SIDDHAM SECTION MARK WITH TRIDENT AND U-SHAPED=ORNAMENTS",
   "SIDDHAM SECTION MARK WITH TRIPLE=CRESCENTS",
   "SIDDHAM SEPARATOR=BAR DOT",
   "SIDDHAM SIGN=ANUSVARA CANDRABINDU NUKTA SIDDHAM VIRAMA VISARGA",
   "SIDDHAM VOWEL SIGN ALTERNATE=U UU",
   "SIDEWAYS BLACK LEFT POINTING,SIDEWAYS BLACK RIGHT POINTING=INDEX",
   "SIDEWAYS BLACK UP POINTING,SIDEWAYS WHITE DOWN POINTING=INDEX",
   "SIDEWAYS WHITE LEFT POINTING,SIDEWAYS WHITE RIGHT POINTING=INDEX",
   "SIDEWAYS WHITE UP POINTING,SIGNWRITING HAND-ANGLE,SIGNWRITING HAND-CIRCLE=INDEX",
   "SIGN OF THE=HORNS",
   "SIGNWRITING AIR BLOW SMALL,SIGNWRITING AIR SUCK SMALL=ROTATIONS",
   "SIGNWRITING AIR BLOWING,SIGNWRITING HAND-ANGLE INDEX RING LITTLE=OUT",
   "SIGNWRITING BREATH=EXHALE INHALE",
   "SIGNWRITING BRUSH,SIGNWRITING GRASP,SIGNWRITING RUB,SIGNWRITING STRIKE=BETWEEN MULTIPLE",
   "SIGNWRITING BRUSH,SIGNWRITING GRASP,SIGNWRITING RUB,SIGNWRITING STRIKE=SINGLE",
   "SIGNWRITING CHEEKS=NEUTRAL PUFFED SUCKED",
   "SIGNWRITING DREAMY EYEBROWS DOWN,SIGNWRITING DREAMY EYEBROWS UP=NEUTRAL",
   "SIGNWRITING DYNAMIC ARROWHEAD=LARGE SMALL",
   "SIGNWRITING DYNAMIC SIMULTANEOUS,SIGNWRITING MOVEMENT-WALLPLANE TRIPLE=ALTERNATING",
   "SIGNWRITING DYNAMIC=FAST GRADUAL RELAXED SIMULTANEOUS SLOW TENSE",
   "SIGNWRITING EYE BLINK,SIGNWRITING FLICK LARGE,SIGNWRITING FLICK SMALL=MULTIPLE SINGLE",
   "SIGNWRITING EYE=WINK",
   "SIGNWRITING EYEBROWS STRAIGHT=DOWN NEUTRAL UP",
   "SIGNWRITING EYEGAZE-FLOORPLANE STRAIGHT=ALTERNATING DOUBLE",
   "SIGNWRITING EYEGAZE-FLOORPLANE,SIGNWRITING HAND-FIST LITTLE DOWN RIPPLE=CURVED STRAIGHT",
   "SIGNWRITING EYEGAZE-WALLPLANE STRAIGHT=ALTERNATING DOUBLE",
   "SIGNWRITING EYEGAZE-WALLPLANE=CIRCLING CURVED STRAIGHT",
   "SIGNWRITING EYELASHES=DOWN FLUTTERING UP",
   "SIGNWRITING EYES HALF=CLOSED OPEN",
   "SIGNWRITING EYES WIDE,SIGNWRITING HAND-CUP FIVE FINGERS SPREAD=OPEN",
   "SIGNWRITING EYES WIDENING=MOVEMENT",
   "SIGNWRITING EYES=CLOSED OPEN SQUEEZED",
   "SIGNWRITING FACE DIRECTION POSITION NOSE FORWARD=TILTING",
   "SIGNWRITING FACE DIRECTION POSITION NOSE UP OR DOWN=TILTING",
   "SIGNWRITING FACE DIRECTION POSITION NOSE UP OR=DOWN",
   "SIGNWRITING FILL=MODIFIER-2 MODIFIER-3 MODIFIER-4 MODIFIER-5 MODIFIER-6",
   "SIGNWRITING FLICK,SIGNWRITING MOVEMENT-HINGE DOWN=SEQUENTIAL",
   "SIGNWRITING FLOORPLANE SHOULDER HIP,SIGNWRITING WALLPLANE SHOULDER HIP=MOVE",
   "SIGNWRITING FOREHEAD=CONTACT NEUTRAL WRINKLED",
   "SIGNWRITING HAND-ANGLE INDEX MIDDLE,SIGNWRITING HAND-HINGE INDEX MIDDLE=LITTLE RING",
   "SIGNWRITING HAND-ANGLE INDEX RING,SIGNWRITING HAND-ANGLE MIDDLE RING=LITTLE",
   "SIGNWRITING HAND-ANGLE INDEX,SIGNWRITING HAND-ANGLE LITTLE INDEX THUMB INDEX=THUMB",
   "SIGNWRITING HAND-ANGLE LITTLE INDEX THUMB INDEX THUMB=OUT",
   "SIGNWRITING HAND-ANGLE LITTLE,SIGNWRITING HAND-CIRCLE LITTLE=INDEX UP",
   "SIGNWRITING HAND-ANGLE MIDDLE RING LITTLE=IN OUT",
   "SIGNWRITING HAND-ANGLE RING DOWN MIDDLE THUMB INDEX,THIN GREEK=CROSS",
   "SIGNWRITING HAND-ANGLE RING,SIGNWRITING HAND-CIRCLE INDEX MIDDLE CROSS=LITTLE",
   "SIGNWRITING HAND-CIRCLE INDEX MIDDLE=CROSSED LITTLE RING THUMB",
   "SIGNWRITING HAND-CIRCLE INDEX RING,SIGNWRITING HAND-CIRCLE MIDDLE RING=LITTLE",
   "SIGNWRITING HAND-CIRCLE INDEX=BENT HINGE MIDDLE",
   "SIGNWRITING HAND-CIRCLE MIDDLE RING LITTLE=BENT",
   "SIGNWRITING HAND-CIRCLE MIDDLE,SIGNWRITING HAND-FIST INDEX HINGED MIDDLE=UP",
   "SIGNWRITING HAND-CIRCLE RING,SIGNWRITING HAND-CUP INDEX RING=LITTLE",
   "SIGNWRITING HAND-CLAW FOUR FINGERS=CONJOINED",
   "SIGNWRITING HAND-CLAW INDEX THUMB CURVE THUMB=INSIDE",
   "SIGNWRITING HAND-CLAW MIDDLE RING LITTLE CONJOINED=SIDE",
   "SIGNWRITING HAND-CLAW MIDDLE RING LITTLE=CONJOINED",
   "SIGNWRITING HAND-CLAW NO,SIGNWRITING HAND-CUP INDEX,SIGNWRITING HAND-CUP NO=THUMB",
   "SIGNWRITING HAND-CLAW THUMB,SIGNWRITING HAND-CUP OPEN THUMB=FORWARD SIDE",
   "SIGNWRITING HAND-CUP FIVE FINGERS,SIGNWRITING HAND-FLAT FIVE FINGERS=SPREAD",
   "SIGNWRITING HAND-CUP INDEX THUMB,SIGNWRITING HAND-CURLICUE=OPEN",
   "SIGNWRITING HAND-CUP MIDDLE RING,SIGNWRITING HAND-FIST INDEX MIDDLE CROSS=LITTLE",
   "SIGNWRITING HAND-CUP OPEN NO,SIGNWRITING HAND-FIST LITTLE INDEX=THUMB",
   "SIGNWRITING HAND-CUP THUMB=FORWARD SIDE",
   "SIGNWRITING HAND-CUP=INDEX OPEN",
   "SIGNWRITING HAND-CURLICUE INDEX RING LITTLE=ON",
   "SIGNWRITING HAND-CURLICUE MIDDLE RING LITTLE=ON",
   "SIGNWRITING HAND-FIST FOUR FINGERS CONJOINED=BENT",
   "SIGNWRITING HAND-FIST INDEX HINGED MIDDLE UP THUMB=SIDE",
   "SIGNWRITING HAND-FIST INDEX HINGED=LOW",
   "SIGNWRITING HAND-FIST INDEX MIDDLE BENT THUMB=STRAIGHT",
   "SIGNWRITING HAND-FIST INDEX MIDDLE CONJOINED CUPPED THUMB=FORWARD",
   "SIGNWRITING HAND-FIST INDEX MIDDLE CONJOINED HINGED THUMB=SIDE",
   "SIGNWRITING HAND-FIST INDEX MIDDLE CONJOINED INDEX=BENT",
   "SIGNWRITING HAND-FIST INDEX MIDDLE CONJOINED MIDDLE=BENT",
   "SIGNWRITING HAND-FIST INDEX MIDDLE CONJOINED THUMB SIDE=BENT CONJOINED",
   "SIGNWRITING HAND-FIST INDEX MIDDLE CONJOINED THUMB=FORWARD SIDE",
   "SIGNWRITING HAND-FIST INDEX MIDDLE CONJOINED=CUPPED HINGED",
   "SIGNWRITING HAND-FIST INDEX MIDDLE CROSSED THUMB=SIDE",
   "SIGNWRITING HAND-FIST INDEX MIDDLE HINGED SPREAD THUMB=SIDE",
   "SIGNWRITING HAND-FIST INDEX MIDDLE RAISED=KNUCKLES",
   "SIGNWRITING HAND-FIST INDEX MIDDLE RING=BENT CONJOINED",
   "SIGNWRITING HAND-FIST INDEX MIDDLE STRAIGHT THUMB=BENT",
   "SIGNWRITING HAND-FIST INDEX MIDDLE THUMB ANGLED=OUT",
   "SIGNWRITING HAND-FIST INDEX MIDDLE THUMB CONJOINED=HINGED",
   "SIGNWRITING HAND-FIST INDEX MIDDLE THUMB=ANGLED BENT CIRCLED CUPPED HINGED HOOKED",
   "SIGNWRITING HAND-FIST INDEX MIDDLE UP SPREAD THUMB=FORWARD",
   "SIGNWRITING HAND-FIST INDEX MIDDLE=BENT CONJOINED CROSSED HINGED LITTLE RING THUMB",
   "SIGNWRITING HAND-FIST INDEX RAISED,SIGNWRITING HAND-FIST LITTLE RAISED=KNUCKLE",
   "SIGNWRITING HAND-FIST INDEX RING,SIGNWRITING HAND-FIST MIDDLE RING=LITTLE",
   "SIGNWRITING HAND-FIST INDEX THUMB ANGLED IN MIDDLE=UP",
   "SIGNWRITING HAND-FIST INDEX THUMB ANGLED OUT MIDDLE=UP",
   "SIGNWRITING HAND-FIST INDEX THUMB CIRCLED MIDDLE=UP",
   "SIGNWRITING HAND-FIST INDEX THUMB CUPPED MIDDLE=UP",
   "SIGNWRITING HAND-FIST INDEX THUMB CURVE THUMB=INSIDE UNDER",
   "SIGNWRITING HAND-FIST INDEX THUMB FORWARD INDEX=BENT STRAIGHT",
   "SIGNWRITING HAND-FIST INDEX THUMB HOOKED MIDDLE=HINGED UP",
   "SIGNWRITING HAND-FIST INDEX THUMB SIDE BOTH=BENT",
   "SIGNWRITING HAND-FIST INDEX THUMB SIDE INDEX=BENT HINGE",
   "SIGNWRITING HAND-FIST INDEX THUMB SIDE THUMB,SIGNWRITING HAND-FIST THUMB SIDE=BENT CONJOINED",
   "SIGNWRITING HAND-FIST INDEX THUMB SIDE THUMB,SIGNWRITING HAND-FIST THUMB SIDE=DIAGONAL",
   "SIGNWRITING HAND-FIST INDEX THUMB=CIRCLE CURLICUE HOOK SIDE",
   "SIGNWRITING HAND-FIST INDEX UP MIDDLE HINGED THUMB=CONJOINED SIDE",
   "SIGNWRITING HAND-FIST INDEX UP MIDDLE=HINGED",
   "SIGNWRITING HAND-FIST INDEX=BENT CUPPED HINGED MIDDLE",
   "SIGNWRITING HAND-FIST LITTLE DOWN OTHERS=CIRCLED",
   "SIGNWRITING HAND-FIST LITTLE TOUCHES=THUMB",
   "SIGNWRITING HAND-FIST LITTLE=BENT DOWN INDEX THUMB UP",
   "SIGNWRITING HAND-FIST MIDDLE BENT OVER=INDEX",
   "SIGNWRITING HAND-FIST MIDDLE RAISED,SIGNWRITING HAND-FIST RING RAISED=KNUCKLE",
   "SIGNWRITING HAND-FIST MIDDLE THUMB ANGLED INDEX=UP",
   "SIGNWRITING HAND-FIST MIDDLE THUMB ANGLED OUT INDEX=CROSSED UP",
   "SIGNWRITING HAND-FIST MIDDLE THUMB CIRCLED INDEX=HINGED UP",
   "SIGNWRITING HAND-FIST MIDDLE THUMB CUPPED INDEX=UP",
   "SIGNWRITING HAND-FIST MIDDLE THUMB HOOKED INDEX=UP",
   "SIGNWRITING HAND-FIST MIDDLE THUMB,SIGNWRITING HAND-FIST THUMB BETWEEN RING=LITTLE",
   "SIGNWRITING HAND-FIST MIDDLE UP THUMB=SIDE",
   "SIGNWRITING HAND-FIST MIDDLE=DOWN LITTLE UP",
   "SIGNWRITING HAND-FIST RING MIDDLE RAISED=KNUCKLES",
   "SIGNWRITING HAND-FIST RING MIDDLE,SIGNWRITING HAND-HINGE FOUR FINGERS=CONJOINED",
   "SIGNWRITING HAND-FIST RING=DOWN INDEX LITTLE MIDDLE THUMB UP",
   "SIGNWRITING HAND-FIST THUMB BETWEEN INDEX MIDDLE=STRAIGHT",
   "SIGNWRITING HAND-FIST THUMB BETWEEN INDEX=MIDDLE",
   "SIGNWRITING HAND-FIST THUMB BETWEEN MIDDLE=RING",
   "SIGNWRITING HAND-FIST THUMB OVER FOUR RAISED=KNUCKLES",
   "SIGNWRITING HAND-FIST THUMB OVER TWO,SIGNWRITING HAND-FIST THUMB UNDER FOUR=FINGERS",
   "SIGNWRITING HAND-FIST THUMB UNDER INDEX=BENT",
   "SIGNWRITING HAND-FIST THUMB UNDER LITTLE,SIGNWRITING HAND-OVAL LITTLE=UP",
   "SIGNWRITING HAND-FIST THUMB UNDER THREE=FINGERS",
   "SIGNWRITING HAND-FIST THUMB UNDER TWO,SIGNWRITING HAND-FLAT FOUR=FINGERS",
   "SIGNWRITING HAND-FIST THUMB=FORWARD HEEL",
   "SIGNWRITING HAND-FIST=HEEL INDEX THUMB",
   "SIGNWRITING HAND-FLAT BETWEEN PALM=FACINGS",
   "SIGNWRITING HAND-FLAT FIVE FINGERS SPREAD FOUR=BENT",
   "SIGNWRITING HAND-FLAT FIVE FINGERS SPREAD HINGED NO=THUMB",
   "SIGNWRITING HAND-FLAT FIVE FINGERS SPREAD HINGED THUMB=SIDE",
   "SIGNWRITING HAND-FLAT FIVE FINGERS SPREAD THUMB=FORWARD",
   "SIGNWRITING HAND-FLAT FIVE FINGERS SPREAD=BENT HINGED",
   "SIGNWRITING HAND-FLAT FOUR FINGERS CONJOINED=SPLIT",
   "SIGNWRITING HAND-FLAT FOUR FINGERS=BENT CONJOINED HINGED",
   "SIGNWRITING HAND-FLAT HEEL FIVE FINGERS SPREAD FOUR=BENT",
   "SIGNWRITING HAND-FLAT HEEL FIVE FINGERS SPREAD=BENT",
   "SIGNWRITING HAND-FLAT HEEL FIVE FINGERS,SIGNWRITING HAND-OVAL FIVE FINGERS=SPREAD",
   "SIGNWRITING HAND-FLAT HEEL THUMB,SIGNWRITING HAND-FLAT SPLIT CENTRE THUMB=SIDE",
   "SIGNWRITING HAND-FLAT SPLIT CENTRE THUMB SIDE=BENT",
   "SIGNWRITING HAND-FLAT SPLIT INDEX THUMB,SIGNWRITING HAND-HINGE THUMB=SIDE",
   "SIGNWRITING HAND-FLAT SPLIT=CENTRE LITTLE",
   "SIGNWRITING HAND-FLAT THUMB=BENT FORWARD SIDE",
   "SIGNWRITING HAND-FLAT=HEEL",
   "SIGNWRITING HAND-HINGE FIVE FINGERS SPREAD=OPEN",
   "SIGNWRITING HAND-HINGE INDEX MIDDLE RING=CONJOINED",
   "SIGNWRITING HAND-HINGE INDEX RING,SIGNWRITING HAND-HINGE MIDDLE RING=LITTLE",
   "SIGNWRITING HAND-HINGE INDEX THUMB=LARGE OPEN SIDE SMALL",
   "SIGNWRITING HAND-HINGE INDEX=HINGED THUMB",
   "SIGNWRITING HAND-HINGE LITTLE INDEX,SIGNWRITING HAND-HINGE NO=THUMB",
   "SIGNWRITING HAND-HINGE LITTLE=INDEX THUMB",
   "SIGNWRITING HAND-HINGE OPEN NO,SIGNWRITING HAND-HOOK MIDDLE=THUMB",
   "SIGNWRITING HAND-HINGE OPEN THUMB,SIGNWRITING HAND-OVAL THUMB=FORWARD SIDE",
   "SIGNWRITING HAND-HINGE RING DOWN INDEX THUMB HOOK=MIDDLE",
   "SIGNWRITING HAND-HINGE THUMB BETWEEN MIDDLE=RING",
   "SIGNWRITING HAND-HINGE THUMB SIDE TOUCHING,SIGNWRITING HAND-OVAL=INDEX",
   "SIGNWRITING HAND-HINGE=INDEX LITTLE MIDDLE OPEN RING SMALL",
   "SIGNWRITING HAND-HOOK INDEX RING LITTLE=IN OUT UNDER",
   "SIGNWRITING HAND-HOOK MIDDLE RING LITTLE CONJOINED,SYMBOL FOR SHIFT=IN OUT",
   "SIGNWRITING HAND-HOOK MIDDLE RING LITTLE=CONJOINED",
   "SIGNWRITING HAND-HOOK RING,SIGNWRITING HAND-OVAL NO=THUMB",
   "SIGNWRITING HAND-HOOK=CURLICUE",
   "SIGNWRITING HAND-OVAL RING=LITTLE",
   "SIGNWRITING HEAD MOVEMENT-FLOORPLANE=CURVE STRAIGHT",
   "SIGNWRITING HEAD MOVEMENT-WALLPLANE=CURVE STRAIGHT TILT",
   "SIGNWRITING HEAD=RIM",
   "SIGNWRITING LIMB=COMBINATION LENGTH-1 LENGTH-2 LENGTH-3 LENGTH-4 LENGTH-5 LENGTH-6 LENGTH-7",
   "SIGNWRITING LIP LOWER OVER=UPPER",
   "SIGNWRITING LIP UPPER OVER=LOWER",
   "SIGNWRITING LIPS PRESSED=TOGETHER",
   "SIGNWRITING LOCATION HEAD=NECK",
   "SIGNWRITING LOCATION LIMBS=DIGITS",
   "SIGNWRITING LOCATION-WALLPLANE,SIX-PER-EM,THREE-PER-EM,ZERO WIDTH NO-BREAK=SPACE",
   "SIGNWRITING LOCATION=DEPTH HEIGHT TORSO WIDTH",
   "SIGNWRITING MOUTH CLOSED=CONTACT FORWARD NEUTRAL",
   "SIGNWRITING MOUTH FROWN,SIGNWRITING MOUTH SMILE=OPEN WRINKLED",
   "SIGNWRITING MOUTH KISS=FORWARD WRINKLED",
   "SIGNWRITING MOUTH OPEN OVAL,SIGNWRITING MOUTH OPEN RECTANGLE=WRINKLED YAWN",
   "SIGNWRITING MOUTH OPEN=CIRCLE FORWARD OVAL RECTANGLE WRINKLED",
   "SIGNWRITING MOUTH TENSE=FORWARD SUCKED",
   "SIGNWRITING MOUTH WRINKLES=DOUBLE SINGLE",
   "SIGNWRITING MOUTH=CORNERS FROWN KISS SMILE TENSE",
   "SIGNWRITING MOVEMENT-DIAGONAL AWAY,SIGNWRITING MOVEMENT-DIAGONAL BETWEEN AWAY=LARGE LARGEST",
   "SIGNWRITING MOVEMENT-DIAGONAL AWAY,SIGNWRITING MOVEMENT-DIAGONAL BETWEEN AWAY=MEDIUM SMALL",
   "SIGNWRITING MOVEMENT-DIAGONAL BETWEEN TOWARDS=LARGE LARGEST MEDIUM SMALL",
   "SIGNWRITING MOVEMENT-DIAGONAL TOWARDS=LARGE LARGEST MEDIUM SMALL",
   "SIGNWRITING MOVEMENT-FLOORPLANE ARM CIRCLE HITTING WALL LARGE=DOUBLE SINGLE",
   "SIGNWRITING MOVEMENT-FLOORPLANE ARM CIRCLE HITTING WALL MEDIUM=DOUBLE SINGLE",
   "SIGNWRITING MOVEMENT-FLOORPLANE ARM CIRCLE HITTING WALL SMALL=DOUBLE SINGLE",
   "SIGNWRITING MOVEMENT-FLOORPLANE BOX,SIGNWRITING MOVEMENT-FLOORPLANE CORNER=LARGE MEDIUM",
   "SIGNWRITING MOVEMENT-FLOORPLANE BOX,SIGNWRITING MOVEMENT-FLOORPLANE CORNER=SMALL",
   "SIGNWRITING MOVEMENT-FLOORPLANE CURVE HITTING CEILING=LARGE SMALL",
   "SIGNWRITING MOVEMENT-FLOORPLANE CURVE HITTING FLOOR=LARGE SMALL",
   "SIGNWRITING MOVEMENT-FLOORPLANE CURVE=COMBINED LARGE LARGEST MEDIUM SMALL",
   "SIGNWRITING MOVEMENT-FLOORPLANE DOUBLE ALTERNATING WRIST=FLEX",
   "SIGNWRITING MOVEMENT-FLOORPLANE DOUBLE WRIST=FLEX",
   "SIGNWRITING MOVEMENT-FLOORPLANE DOUBLE=ALTERNATING STRAIGHT",
   "SIGNWRITING MOVEMENT-FLOORPLANE FINGER CIRCLES HITTING WALL=DOUBLE SINGLE",
   "SIGNWRITING MOVEMENT-FLOORPLANE FINGER=CONTACT",
   "SIGNWRITING MOVEMENT-FLOORPLANE HUMP HITTING CEILING LARGE=DOUBLE TRIPLE",
   "SIGNWRITING MOVEMENT-FLOORPLANE HUMP HITTING CEILING SMALL=DOUBLE TRIPLE",
   "SIGNWRITING MOVEMENT-FLOORPLANE HUMP HITTING FLOOR LARGE=DOUBLE",
   "SIGNWRITING MOVEMENT-FLOORPLANE HUMP HITTING FLOOR SMALL=DOUBLE",
   "SIGNWRITING MOVEMENT-FLOORPLANE HUMP HITTING FLOOR TRIPLE LARGE=TRIPLE",
   "SIGNWRITING MOVEMENT-FLOORPLANE HUMP HITTING FLOOR TRIPLE SMALL=TRIPLE",
   "SIGNWRITING MOVEMENT-FLOORPLANE HUMP,SIGNWRITING MOVEMENT-FLOORPLANE LOOP=SMALL",
   "SIGNWRITING MOVEMENT-FLOORPLANE LOOP HITTING CEILING LARGE=DOUBLE SINGLE",
   "SIGNWRITING MOVEMENT-FLOORPLANE LOOP HITTING CEILING SMALL=DOUBLE SINGLE",
   "SIGNWRITING MOVEMENT-FLOORPLANE LOOP HITTING FLOOR LARGE=DOUBLE SINGLE",
   "SIGNWRITING MOVEMENT-FLOORPLANE LOOP HITTING FLOOR SMALL=DOUBLE SINGLE",
   "SIGNWRITING MOVEMENT-FLOORPLANE PEAKS,SIGNWRITING MOVEMENT-FLOORPLANE ZIGZAG=LARGE MEDIUM",
   "SIGNWRITING MOVEMENT-FLOORPLANE PEAKS,SIGNWRITING MOVEMENT-FLOORPLANE ZIGZAG=SMALL",
   "SIGNWRITING MOVEMENT-FLOORPLANE SHAKING=PARALLEL",
   "SIGNWRITING MOVEMENT-FLOORPLANE SINGLE STRAIGHT=LARGE LARGEST MEDIUM SMALL",
   "SIGNWRITING MOVEMENT-FLOORPLANE SINGLE WRIST=FLEX",
   "SIGNWRITING MOVEMENT-FLOORPLANE TRIPLE ALTERNATING WRIST=FLEX",
   "SIGNWRITING MOVEMENT-FLOORPLANE TRIPLE ALTERNATING=MOVEMENT",
   "SIGNWRITING MOVEMENT-FLOORPLANE TRIPLE STRAIGHT=MOVEMENT",
   "SIGNWRITING MOVEMENT-FLOORPLANE TRIPLE WRIST=FLEX",
   "SIGNWRITING MOVEMENT-FLOORPLANE WAVE HITTING CEILING=LARGE SMALL",
   "SIGNWRITING MOVEMENT-FLOORPLANE WAVE HITTING FLOOR=LARGE SMALL",
   "SIGNWRITING MOVEMENT-FLOORPLANE WAVE=LARGE SMALL SNAKE",
   "SIGNWRITING MOVEMENT-FLOORPLANE WRIST CIRCLE HITTING WALL=DOUBLE SINGLE",
   "SIGNWRITING MOVEMENT-FLOORPLANE=BEND CHECK CROSS JAW",
   "SIGNWRITING MOVEMENT-HINGE UP DOWN ALTERNATING=LARGE SMALL",
   "SIGNWRITING MOVEMENT-HINGE UP DOWN=LARGE SMALL",
   "SIGNWRITING MOVEMENT-HINGE UP,SIGNWRITING SQUEEZE=SEQUENTIAL",
   "SIGNWRITING MOVEMENT-WALLPLANE ARM CIRCLE MEDIUM=DOUBLE SINGLE",
   "SIGNWRITING MOVEMENT-WALLPLANE ARM CIRCLE SMALL=DOUBLE SINGLE",
   "SIGNWRITING MOVEMENT-WALLPLANE BEND,SIGNWRITING MOVEMENT-WALLPLANE BOX=LARGE MEDIUM SMALL",
   "SIGNWRITING MOVEMENT-WALLPLANE CHECK,SIGNWRITING MOVEMENT-WALLPLANE HUMP=LARGE MEDIUM SMALL",
   "SIGNWRITING MOVEMENT-WALLPLANE CORNER=LARGE MEDIUM ROTATION SMALL",
   "SIGNWRITING MOVEMENT-WALLPLANE CURVE HALF-CIRCLE=LARGE LARGEST MEDIUM SMALL",
   "SIGNWRITING MOVEMENT-WALLPLANE CURVE HITTING=CHEST",
   "SIGNWRITING MOVEMENT-WALLPLANE CURVE QUARTER=LARGE LARGEST MEDIUM SMALL",
   "SIGNWRITING MOVEMENT-WALLPLANE CURVE THEN=STRAIGHT",
   "SIGNWRITING MOVEMENT-WALLPLANE CURVE THREE-QUARTER CIRCLE=MEDIUM SMALL",
   "SIGNWRITING MOVEMENT-WALLPLANE CURVED CROSS=MEDIUM SMALL",
   "SIGNWRITING MOVEMENT-WALLPLANE DOUBLE ALTERNATING WRIST=FLEX",
   "SIGNWRITING MOVEMENT-WALLPLANE DOUBLE WRIST=FLEX",
   "SIGNWRITING MOVEMENT-WALLPLANE DOUBLE=ALTERNATING STRAIGHT",
   "SIGNWRITING MOVEMENT-WALLPLANE FINGER CIRCLES=DOUBLE SINGLE",
   "SIGNWRITING MOVEMENT-WALLPLANE FINGER=CONTACT",
   "SIGNWRITING MOVEMENT-WALLPLANE HUMP HITTING FRONT=WALL",
   "SIGNWRITING MOVEMENT-WALLPLANE HUMP HITTING=CHEST",
   "SIGNWRITING MOVEMENT-WALLPLANE LOOP HITTING FRONT=WALL",
   "SIGNWRITING MOVEMENT-WALLPLANE LOOP HITTING=CHEST",
   "SIGNWRITING MOVEMENT-WALLPLANE LOOP SMALL=DOUBLE",
   "SIGNWRITING MOVEMENT-WALLPLANE LOOP,SIGNWRITING MOVEMENT-WALLPLANE PEAKS=LARGE MEDIUM SMALL",
   "SIGNWRITING MOVEMENT-WALLPLANE SINGLE STRAIGHT=LARGE LARGEST MEDIUM SMALL",
   "SIGNWRITING MOVEMENT-WALLPLANE SINGLE WRIST=FLEX",
   "SIGNWRITING MOVEMENT-WALLPLANE TRIPLE ALTERNATING WRIST=FLEX",
   "SIGNWRITING MOVEMENT-WALLPLANE TRIPLE STRAIGHT,SIGNWRITING TEETH=MOVEMENT",
   "SIGNWRITING MOVEMENT-WALLPLANE TRIPLE WRIST=FLEX",
   "SIGNWRITING MOVEMENT-WALLPLANE WAVE CURVE DOUBLE=LARGE MEDIUM SMALL",
   "SIGNWRITING MOVEMENT-WALLPLANE WAVE CURVE TRIPLE=LARGE MEDIUM SMALL",
   "SIGNWRITING MOVEMENT-WALLPLANE WAVE DIAGONAL PATH=LARGE MEDIUM SMALL",
   "SIGNWRITING MOVEMENT-WALLPLANE WAVE HITTING FRONT=WALL",
   "SIGNWRITING MOVEMENT-WALLPLANE WAVE HITTING=CHEST",
   "SIGNWRITING MOVEMENT-WALLPLANE WRIST CIRCLE FRONT=DOUBLE SINGLE",
   "SIGNWRITING MOVEMENT-WALLPLANE ZIGZAG=LARGE MEDIUM SMALL",
   "SIGNWRITING MOVEMENT-WALLPLANE=CROSS JAW SHAKING",
   "SIGNWRITING NOSE=CONTACT NEUTRAL WIGGLES WRINKLES",
   "SIGNWRITING ROTATION-FLOORPLANE ALTERNATING HITTING=CEILING FLOOR",
   "SIGNWRITING ROTATION-FLOORPLANE DOUBLE HITTING=CEILING FLOOR",
   "SIGNWRITING ROTATION-FLOORPLANE SINGLE HITTING=CEILING FLOOR",
   "SIGNWRITING ROTATION-FLOORPLANE=ALTERNATING DOUBLE SINGLE",
   "SIGNWRITING ROTATION-WALLPLANE ALTERNATING HITTING FRONT=WALL",
   "SIGNWRITING ROTATION-WALLPLANE ALTERNATING HITTING=CHEST",
   "SIGNWRITING ROTATION-WALLPLANE DOUBLE HITTING FRONT=WALL",
   "SIGNWRITING ROTATION-WALLPLANE DOUBLE HITTING=CHEST",
   "SIGNWRITING ROTATION-WALLPLANE SINGLE HITTING FRONT=WALL",
   "SIGNWRITING ROTATION-WALLPLANE SINGLE HITTING=CHEST",
   "SIGNWRITING ROTATION-WALLPLANE=ALTERNATE DOUBLE SINGLE",
   "SIGNWRITING ROTATION=MODIFIER-10 MODIFIER-11 MODIFIER-12 MODIFIER-13 MODIFIER-14 MODIFIER-15",
   "SIGNWRITING ROTATION=MODIFIER-16 MODIFIER-2 MODIFIER-3 MODIFIER-4 MODIFIER-5 MODIFIER-6",
   "SIGNWRITING ROTATION=MODIFIER-7 MODIFIER-8 MODIFIER-9",
   "SIGNWRITING SHOULDER HIP=POSITIONS SPINE",
   "SIGNWRITING SHOULDER TILTING FROM=WAIST",
   "SIGNWRITING SQUEEZE FLICK=ALTERNATING",
   "SIGNWRITING SQUEEZE LARGE,SIGNWRITING SQUEEZE SMALL=MULTIPLE SINGLE",
   "SIGNWRITING SURFACE=BETWEEN SYMBOLS",
   "SIGNWRITING TEETH ON LIPS,SIGNWRITING TEETH ON TONGUE=MOVEMENT",
   "SIGNWRITING TEETH ON=LIPS TONGUE",
   "SIGNWRITING TENSE CHEEKS=HIGH LOW MIDDLE",
   "SIGNWRITING TONGUE CENTRE STICKING,TETRAGRAM FOR BRANCHING=OUT",
   "SIGNWRITING TONGUE INSIDE MOUTH=RELAXED",
   "SIGNWRITING TONGUE LICKING,SIGNWRITING TONGUE TIP BETWEEN=LIPS",
   "SIGNWRITING TONGUE MOVES AGAINST=CHEEK",
   "SIGNWRITING TONGUE STICKING OUT=FAR",
   "SIGNWRITING TONGUE TIP TOUCHING INSIDE,SMILING CAT FACE WITH OPEN=MOUTH",
   "SIGNWRITING TORSO-FLOORPLANE=TWISTING",
   "SIGNWRITING TORSO-WALLPLANE CURVED=BEND",
   "SIGNWRITING TORSO-WALLPLANE STRAIGHT=STRETCH",
   "SIGNWRITING TOUCH=BETWEEN MULTIPLE SINGLE",
   "SIGNWRITING TRAVEL-FLOORPLANE ROTATION-FLOORPLANE=ALTERNATING DOUBLE SINGLE",
   "SIGNWRITING TRAVEL-FLOORPLANE ROTATION-WALLPLANE=ALTERNATING DOUBLE SINGLE",
   "SIGNWRITING TRAVEL-FLOORPLANE,SIGNWRITING TRAVEL-WALLPLANE=SHAKING",
   "SIGNWRITING TRAVEL-WALLPLANE ARM SPIRAL=DOUBLE SINGLE TRIPLE",
   "SIGNWRITING TRAVEL-WALLPLANE ROTATION-FLOORPLANE=ALTERNATING DOUBLE SINGLE",
   "SIGNWRITING TRAVEL-WALLPLANE ROTATION-WALLPLANE=ALTERNATING DOUBLE SINGLE",
   "SIGNWRITING UPPER BODY TILTING FROM HIP=JOINTS",
   "SIGNWRITING=COLON COMMA EARS EXCITEMENT FINGER HAIR HAND-ANGLE HAND-CIRCLE HAND-CLAW",
   "SIGNWRITING=HAND-CUP HAND-CURLICUE HAND-FIST HAND-FLAT HAND-HINGE HAND-HOOK HAND-OVAL HEAD",
   "SIGNWRITING=NECK PARENTHESIS SEMICOLON TEETH",
   "SILHOUETTE OF=JAPAN",
   "SIMILAR ABOVE GREATER-THAN ABOVE EQUALS,SIMILAR ABOVE LESS-THAN ABOVE EQUALS=SIGN",
   "SIMILAR MINUS=SIMILAR",
   "SINGLE LEFT-POINTING ANGLE QUOTATION,SINGLE LOW-9 QUOTATION=MARK",
   "SINGLE RIGHT-POINTING ANGLE QUOTATION,SMALL EXCLAMATION,SMALL QUESTION=MARK",
   "SINGLE SHIFT,TURNED DIGIT=THREE TWO",
   "SINHALA LETTER ALPAPRAANA,SINHALA LETTER MAHAAPRAANA=BAYANNA CAYANNA DAYANNA DDAYANNA",
   "SINHALA LETTER ALPAPRAANA,SINHALA LETTER MAHAAPRAANA=GAYANNA JAYANNA KAYANNA PAYANNA TAYANNA",
   "SINHALA LETTER ALPAPRAANA,SINHALA LETTER MAHAAPRAANA=TTAYANNA",
   "SINHALA LETTER AMBA=BAYANNA",
   "SINHALA LETTER DANTAJA,SINHALA LETTER MUURDHAJA=LAYANNA NAYANNA SAYANNA",
   "SINHALA LETTER KANTAJA=NAASIKYAYA",
   "SINHALA LETTER SANYAKA=DAYANNA DDAYANNA GAYANNA JAYANNA",
   "SINHALA LETTER TAALUJA SANYOOGA=NAAKSIKYAYA",
   "SINHALA LETTER TAALUJA=NAASIKYAYA SAYANNA",
   "SINHALA LETTER=AAYANNA AEEYANNA AEYANNA AIYANNA AUYANNA AYANNA EEYANNA EYANNA FAYANNA",
   "SINHALA LETTER=HAYANNA IIYANNA ILUUYANNA ILUYANNA IRUUYANNA IRUYANNA IYANNA MAYANNA OOYANNA",
   "SINHALA LETTER=OYANNA RAYANNA UUYANNA UYANNA VAYANNA YAYANNA",
   "SINHALA LITH DIGIT,SORA SOMPENG DIGIT,SUNDANESE DIGIT,TAG DIGIT=EIGHT FIVE FOUR NINE ONE",
   "SINHALA LITH DIGIT,SORA SOMPENG DIGIT,SUNDANESE DIGIT,TAG DIGIT=SEVEN SIX THREE TWO ZERO",
   "SINHALA PUNCTUATION=KUNDDALIYA",
   "SINHALA SIGN=AL-LAKUNA ANUSVARAYA CANDRABINDU VISARGAYA",
   "SINHALA VOWEL SIGN DIGA=AEDA-PILLA GAETTA-PILLA GAYANUKITTA IS-PILLA KOMBUVA PAA-PILLA",
   "SINHALA VOWEL SIGN KETTI=AEDA-PILLA IS-PILLA PAA-PILLA",
   "SINHALA VOWEL SIGN KOMBU=DEKA",
   "SINHALA VOWEL SIGN KOMBUVA HAA DIGA=AELA-PILLA",
   "SINHALA VOWEL SIGN KOMBUVA HAA=AELA-PILLA GAYANUKITTA",
   "SINHALA VOWEL SIGN=AELA-PILLA GAETTA-PILLA GAYANUKITTA KOMBUVA",
   "SLANTED EQUAL TO OR GREATER-THAN WITH DOT=INSIDE",
   "SLANTED EQUAL TO OR LESS-THAN WITH DOT=INSIDE",
   "SLANTED NORTH ARROW WITH HOOKED=HEAD",
   "SLANTED NORTH ARROW WITH HORIZONTAL,UP FISH,UPWARDS ARROW WITH NOTCHED=TAIL",
   "SLEEPING=ACCOMMODATION FACE SYMBOL",
   "SLEUTH OR=SPY",
   "SLICE OF=PIZZA",
   "SMALL CONTAINS WITH VERTICAL BAR AT END OF HORIZONTAL=STROKE",
   "SMALL DOLLAR,SMALL EQUALS,SMALL GREATER-THAN,SMALL LESS-THAN,SMALL NUMBER=SIGN",
   "SMALL ELEMENT OF WITH VERTICAL BAR AT END OF HORIZONTAL=STROKE",
   "SMALL ELEMENT OF WITH,SOLIDUS WITH,UNION WITH=OVERBAR",
   "SMALL ELEMENT,SQUARE IMAGE,SQUARE ORIGINAL,SUBSET,SUPERSET=OF",
   "SMALL LEFT,SMALL RIGHT,SUBSCRIPT LEFT,SUBSCRIPT RIGHT,SUPERSCRIPT LEFT=PARENTHESIS",
   "SMALL ORANGE,WHITE CONCAVE-SIDED,WHITE DIAMOND CONTAINING BLACK MEDIUM=DIAMOND",
   "SMALL PERCENT,SMALL PLUS,SOM,SPESMILO,SUBSCRIPT EQUALS,SUBSCRIPT PLUS=SIGN",
   "SMALL RIGHT CURLY,SMALL RIGHT TORTOISE SHELL,TAG LEFT CURLY,TAG LEFT SQUARE=BRACKET",
   "SMALL ROMAN NUMERAL FIVE,SOGDIAN NUMBER ONE=HUNDRED",
   "SMALL=AIRPLANE AMPERSAND ASTERISK COLON COMMA HYPHEN-MINUS SEMICOLON TILDE",
   "SMALLER THAN OR EQUAL,SQUARE IMAGE OF OR EQUAL,SQUARE IMAGE OF OR NOT EQUAL=TO",
   "SMILING FACE WITH HEART-SHAPED,SMILING FACE WITH OPEN MOUTH AND SMILING=EYES",
   "SMILING FACE WITH OPEN MOUTH AND COLD=SWEAT",
   "SMILING FACE WITH OPEN MOUTH AND TIGHTLY-CLOSED,SMILING FACE WITH SMILING=EYES",
   "SMILING FACE WITH OPEN,SMILING FACE WITH SMILING EYES AND HAND COVERING=MOUTH",
   "SMILING FACE WITH=HALO HORNS SUNGLASSES TEAR",
   "SNEEZING,SUN WITH,THINKING,TIGER,TIRED,UNAMUSED,UNICORN,UPSIDE-DOWN,WEARY=FACE",
   "SNOWMAN WITHOUT=SNOW",
   "SOFT ICE=CREAM",
   "SOFTWARE-FUNCTION,SPLASHING SWEAT,UNDO,UNITED,UNIVERSAL RECYCLING=SYMBOL",
   "SOGDIAN COMBINING CURVE,SOGDIAN COMBINING DOT,SOGDIAN COMBINING HOOK=ABOVE BELOW",
   "SOGDIAN COMBINING STROKE,SUBSET WITH MULTIPLICATION SIGN=BELOW",
   "SOGDIAN COMBINING TWO DOTS,SYRIAC ESASA,SYRIAC HBASA,SYRIAC OBLIQUE LINE=ABOVE BELOW",
   "SOGDIAN INDEPENDENT=SHIN",
   "SOGDIAN LETTER=ALEPH AYIN BETH FETH GIMEL HE HETH KAPH LAMEDH LESH MEM NUN PE RESH-AYIN",
   "SOGDIAN LETTER=SADHE SAMEKH SHIN TAW WAW YODH ZAYIN",
   "SOGDIAN PUNCTUATION CIRCLE WITH,SOGDIAN PUNCTUATION HALF CIRCLE WITH=DOT",
   "SOGDIAN PUNCTUATION TWO CIRCLES WITH=DOTS",
   "SOGDIAN PUNCTUATION TWO VERTICAL BARS WITH,TILDE OPERATOR WITH RISING=DOTS",
   "SOLID QUILT SQUARE ORNAMENT IN BLACK,UPPER RIGHT DROP-SHADOWED WHITE=SQUARE",
   "SOON WITH RIGHTWARDS ARROW,SUBSET OF OR EQUAL TO WITH DOT=ABOVE",
   "SORA SOMPENG LETTER=AH BAH CAH DAH EEH EH GAH HAH IH JAH KAH LAH MAE MAH NAH NGAH NYAH OH",
   "SORA SOMPENG LETTER=PAH RAH SAH TAH UH VAH YAH",
   "SOUND RECORDING=COPYRIGHT",
   "SOUTH EAST ARROW AND SOUTH WEST,SOUTH EAST ARROW CROSSING NORTH EAST=ARROW",
   "SOUTH EAST ARROW WITH,SOUTH WEST ARROW WITH=HOOK",
   "SOUTH EAST BLACK,SOUTH EAST DOUBLE,SOUTH EAST SANS-SERIF=ARROW",
   "SOUTH EAST TRIANGLE-HEADED ARROW TO,SOUTH WEST TRIANGLE-HEADED ARROW TO=BAR",
   "SOUTH EAST TRIANGLE-HEADED,SOUTH EAST WHITE,SOUTH WEST=ARROW",
   "SOUTH WEST ARROW AND NORTH WEST,SOUTH WEST BLACK,SOUTH WEST DOUBLE=ARROW",
   "SOUTH WEST POINTING VINE,TURNED NORTH EAST POINTING,TURNED NORTH WEST POINTING=LEAF",
   "SOUTH WEST SANS-SERIF,SOUTH WEST TRIANGLE-HEADED,SOUTH WEST WHITE=ARROW",
   "SOYOMBO CLUSTER-INITIAL LETTER=LA RA SA SHA",
   "SOYOMBO FINAL CONSONANT SIGN=-A B D G K L M N NG R S SH",
   "SOYOMBO GEMINATION,SOYOMBO VOWEL LENGTH,SQUARED UP WITH EXCLAMATION=MARK",
   "SOYOMBO HEAD MARK WITH MOON AND SUN AND TRIPLE=FLAME",
   "SOYOMBO HEAD MARK WITH MOON AND SUN AND=FLAME",
   "SOYOMBO HEAD MARK WITH MOON AND=SUN",
   "SOYOMBO LETTER=-A A BA BHA CA CHA DA DDA DDHA DHA DZA GA GHA HA JA JHA KA KHA KSSA LA MA NA",
   "SOYOMBO LETTER=NGA NNA NYA PA PHA RA SA SHA SSA TA THA TSA TSHA TTA TTHA VA YA ZA ZHA",
   "SOYOMBO MARK=PLUTA SHAD TSHEG",
   "SOYOMBO SIGN=ANUSVARA JIHVAMULIYA UPADHMANIYA VISARGA",
   "SOYOMBO VOWEL SIGN VOCALIC=L R",
   "SOYOMBO VOWEL SIGN,ZANABAZAR SQUARE VOWEL SIGN=AI AU E I O OE U UE",
   "SOYOMBO,ZANABAZAR SQUARE=SUBJOINER",
   "SPARKLING,YELLOW=HEART",
   "SPEAKER WITH CANCELLATION,TRIPLE HORIZONTAL BAR WITH DOUBLE VERTICAL=STROKE",
   "SPEAKER WITH ONE SOUND=WAVE",
   "SPEECH,THOUGHT=BALLOON",
   "SPHERICAL ANGLE OPENING=LEFT UP",
   "SPHERICAL,THREE DIMENSIONAL=ANGLE",
   "SPIDER=WEB",
   "SPIRAL CALENDAR,SPIRAL NOTE=PAD",
   "SPIRAL=SHELL",
   "SPOUTING=WHALE",
   "SQUARE C OVER=KG",
   "SQUARE CM,SQUARE DM,SQUARE MM=CUBED SQUARED",
   "SQUARE ERA NAME=HEISEI MEIZI REIWA SYOUWA TAISYOU",
   "SQUARE HIRAGANA=HOKA",
   "SQUARE K=OHM",
   "SQUARE KM=CAPITAL CUBED SQUARED",
   "SQUARE M=CUBED OHM SQUARED",
   "SQUARE MB,TETRAGRAM FOR KEEPING=SMALL",
   "SQUARE MU=A F G L M S V W",
   "SQUARE MV,SQUARE MW=MEGA",
   "SQUARE ORIGINAL OF OR EQUAL,SQUARE ORIGINAL OF OR NOT EQUAL,STRICTLY EQUIVALENT=TO",
   "SQUARE PA=AMPS",
   "SQUARE WITH CONTOURED=OUTLINE",
   "SQUARE WITH DIAGONAL CROSSHATCH,SQUARE WITH HORIZONTAL=FILL",
   "SQUARE WITH LOWER LEFT DIAGONAL HALF,SQUARE WITH LOWER RIGHT DIAGONAL HALF=BLACK",
   "SQUARE WITH ORTHOGONAL CROSSHATCH,SQUARE WITH UPPER LEFT TO LOWER RIGHT=FILL",
   "SQUARE WITH RIGHT HALF,SQUARE WITH TOP HALF=BLACK",
   "SQUARE WITH UPPER LEFT DIAGONAL HALF,SQUARE WITH UPPER RIGHT DIAGONAL HALF=BLACK",
   "SQUARE WITH UPPER RIGHT TO LOWER LEFT,SQUARE WITH VERTICAL=FILL",
   "SQUARE=AARU AM ANPEA APAATO ARUHUA AU BAARERU BAR BEETA BIRU BORUTO BQ BUSSYERU CAL CAP CC",
   "SQUARE=CD CM CO CORPORATION CUP DA DAASU DB DESI DJ DL DM DORU EEKAA ERG ESUKUUDO EV FM FOOT",
   "SQUARE=GAL GANMA GARON GB GHZ GIGA GINII GIRUDAA GPA GURAMU GURAMUTON GY HA HAITU HEKUTAARU",
   "SQUARE=HERUTU HG HON HOON HOORU HP HPA HUARADDO HUIITO HURAN HZ IN ININGU INTI IU KA KAIRI",
   "SQUARE=KARATTO KARORII KB KCAL KEESU KG KHZ KIRO KIROGURAMU KIROMEETORU KIROWATTO KK KL KM",
   "SQUARE=KOOPO KORUNA KPA KT KUROONE KURUZEIRO KV KW KYURII LM LN LOG LOZENGE LX MA MAHHA",
   "SQUARE=MAIKURO MAIRU MANSYON MARUKU MB MEETORU MEGA MEGATON MG MHZ MIKURON MIL MIRI",
   "SQUARE=MIRIBAARU ML MM MOL MPA MS MV MW NA NANO NF NM NOTTO NS NV NW ONSU OOMU OV PA",
   "SQUARE=PAASENTO PAATU PC PEEZI PENIHI PENSU PESO PF PH PIASUTORU PIKO PIKURU PM POINTO PONDO",
   "SQUARE=PPM PR PS PV PW RAD REMU RENTOGEN RIRA RITTORU ROOT RUPII RUUBURU SAIKURU SANTIIMU",
   "SQUARE=SENTI SENTO SIRINGU SR SV TARGET THZ TON UON WATTO WB YAADO YAARU YUAN",
   "SQUARED CJK UNIFIED=IDEOGRAPH-4E00 IDEOGRAPH-4E09 IDEOGRAPH-4E2D IDEOGRAPH-4E8C",
   "SQUARED CJK UNIFIED=IDEOGRAPH-4EA4 IDEOGRAPH-518D IDEOGRAPH-521D IDEOGRAPH-524D",
   "SQUARED CJK UNIFIED=IDEOGRAPH-5272 IDEOGRAPH-53CC IDEOGRAPH-53F3 IDEOGRAPH-5408",
   "SQUARED CJK UNIFIED=IDEOGRAPH-5439 IDEOGRAPH-55B6 IDEOGRAPH-58F0 IDEOGRAPH-591A",
   "SQUARED CJK UNIFIED=IDEOGRAPH-5929 IDEOGRAPH-5B57 IDEOGRAPH-5DE6 IDEOGRAPH-5F8C",
   "SQUARED CJK UNIFIED=IDEOGRAPH-624B IDEOGRAPH-6253 IDEOGRAPH-6295 IDEOGRAPH-6307",
   "SQUARED CJK UNIFIED=IDEOGRAPH-6355 IDEOGRAPH-6599 IDEOGRAPH-65B0 IDEOGRAPH-6620",
   "SQUARED CJK UNIFIED=IDEOGRAPH-6708 IDEOGRAPH-6709 IDEOGRAPH-6E80 IDEOGRAPH-6F14",
   "SQUARED CJK UNIFIED=IDEOGRAPH-7121 IDEOGRAPH-751F IDEOGRAPH-7533 IDEOGRAPH-7981",
   "SQUARED CJK UNIFIED=IDEOGRAPH-7A7A IDEOGRAPH-7D42 IDEOGRAPH-89E3 IDEOGRAPH-8CA9",
   "SQUARED CJK UNIFIED=IDEOGRAPH-8D70 IDEOGRAPH-904A IDEOGRAPH-914D",
   "SQUARED DOT,SUBSET OF ABOVE TILDE,SUPERSET OF ABOVE TILDE,TILDE=OPERATOR",
   "SQUARED FALLING DIAGONAL,SQUARED RISING DIAGONAL=SLASH",
   "SQUARED FOUR DOT,THREE DOT,TINY TWO DOTS OVER ONE DOT=PUNCTUATION",
   "SQUARED KATAKANA=DE KOKO SA",
   "SQUARED LOGICAL,TWO INTERSECTING LOGICAL=AND OR",
   "SQUARED ONE HUNDRED TWENTY,SQUARED SIXTY=P",
   "SQUARED SECOND=SCREEN",
   "SQUARED SEVEN POINT,WHITE ARROW SHAFT WIDTH=ONE",
   "SQUARED SMALL,TETRAGRAM FOR FULL,TOP HALF BLACK,UP ARROW THROUGH=CIRCLE",
   "SQUARED THREE=D",
   "SQUARED=ASTERISK CL COOL FREE HC HDR HI-RES HV ID KEY LOSSLESS MINUS MV NEW NG OK PLUS PPV",
   "SQUARED=SALTIRE SD SHV SOS SQUARE SS TIMES UHD VOD VS WC",
   "SQUAT BLACK RIGHTWARDS,SUBSET ABOVE RIGHTWARDS,SUPERSET ABOVE LEFTWARDS=ARROW",
   "STAFF OF=AESCULAPIUS HERMES",
   "STAR AND=CRESCENT",
   "STAR OF=DAVID",
   "STAR WITH LEFT HALF,STAR WITH RIGHT HALF,TIMES WITH LEFT HALF=BLACK",
   "STAR=EQUALS OPERATOR",
   "START OF PROTECTED,START OF SELECTED=AREA",
   "START OF=HEADING STRING TEXT",
   "STATUE OF=LIBERTY",
   "STEAMING=BOWL",
   "STENOGRAPHIC FULL,SYRIAC SUBLINEAR FULL,SYRIAC SUPRALINEAR FULL,TAG FULL=STOP",
   "STICK FIGURE WITH=DRESS",
   "STRAIGHT=RULER",
   "STRING=TERMINATOR",
   "STUDIO=MICROPHONE",
   "STUFFED=FLATBREAD",
   "SUBSCRIPT,SUPERSCRIPT=EIGHT FIVE FOUR MINUS NINE ONE SEVEN SIX THREE TWO ZERO",
   "SUBSET ABOVE,SUPERSET ABOVE=SUBSET SUPERSET",
   "SUBSET OF ABOVE ALMOST EQUAL,SUBSET OF ABOVE NOT EQUAL,SUBSET OF OR EQUAL=TO",
   "SUBSET OF ABOVE EQUALS,SUCCEEDS ABOVE EQUALS,SUCCEEDS ABOVE SINGLE-LINE EQUALS=SIGN",
   "SUBSET OF WITH NOT EQUAL,SUCCEEDS ABOVE ALMOST EQUAL=TO",
   "SUBSET WITH PLUS SIGN,SUPERSET WITH MULTIPLICATION SIGN=BELOW",
   "SUBSET WITH,SUPERSET WITH,SYRIAC FEMININE,TAI THAM COMBINING CRYPTOGRAMMIC=DOT",
   "SUCCEEDS ABOVE NOT ALMOST EQUAL,SUCCEEDS ABOVE NOT EQUAL=TO",
   "SUCCEEDS ABOVE SINGLE-LINE NOT EQUAL,SUCCEEDS BUT NOT EQUIVALENT=TO",
   "SUCCEEDS OR EQUAL,SUCCEEDS OR EQUIVALENT,SUPERSET OF ABOVE ALMOST EQUAL=TO",
   "SUMMATION=BOTTOM TOP",
   "SUN BEHIND,WHITE SUN BEHIND,WHITE SUN WITH SMALL=CLOUD",
   "SUNDANESE CONSONANT SIGN PASANGAN=MA WA",
   "SUNDANESE CONSONANT SIGN=PAMINGKAL PANYAKRA PANYIKU",
   "SUNDANESE LETTER FINAL=K M",
   "SUNDANESE LETTER=A AE BA BHA CA DA E EU FA GA HA I JA KA KHA LA LEU MA NA NGA NYA O PA QA RA",
   "SUNDANESE LETTER=REU SA SYA TA U VA WA XA YA ZA",
   "SUNDANESE PUNCTUATION BINDU BA,SUNDANESE PUNCTUATION BINDU DA=SATANGA",
   "SUNDANESE PUNCTUATION BINDU KA,SUNDANESE PUNCTUATION BINDU LEU=SATANGA",
   "SUNDANESE PUNCTUATION BINDU=CAKRA PANGLONG PURNAMA SURYA",
   "SUNDANESE SIGN=PAMAAEH PANGLAYAR PANGWISAD PANYECEK VIRAMA",
   "SUNDANESE VOWEL SIGN=PAMEPET PANAELAENG PANEULEUNG PANGHULU PANOLONG PANYUKU",
   "SUNRISE OVER=MOUNTAINS",
   "SUNSET OVER=BUILDINGS",
   "SUPERSCRIPT EQUALS,SUPERSCRIPT PLUS,SUPERSET OF ABOVE EQUALS,TAG DOLLAR=SIGN",
   "SUPERSCRIPT LATIN SMALL LETTER=I N",
   "SUPERSCRIPT RIGHT,TAG LEFT,TAG RIGHT,TOP HALF LEFT,TOP HALF RIGHT=PARENTHESIS",
   "SUPERSET BESIDE AND JOINED BY DASH WITH=SUBSET",
   "SUPERSET OF ABOVE NOT EQUAL,SUPERSET OF OR EQUAL,SUPERSET OF WITH NOT EQUAL=TO",
   "SUPERSET OF OR EQUAL TO WITH DOT,TELUGU SIGN COMBINING ANUSVARA=ABOVE",
   "SUPERSET PRECEDING,TAG REVERSE,VERY HEAVY REVERSE=SOLIDUS",
   "SUPERSET WITH PLUS SIGN,VEDIC TONE DOT,VEDIC TONE THREE DOTS=BELOW",
   "SUSPENSION=RAILWAY",
   "SYLOTI NAGRI LETTER=A BHO BO CHO CO DDHO DDO DHO DO E GHO GO HO I JHO JO KHO KO LO MO NO O",
   "SYLOTI NAGRI LETTER=PHO PO RO RRO SO THO TO TTHO TTO U",
   "SYLOTI NAGRI POETRY=MARK-1 MARK-2 MARK-3 MARK-4",
   "SYLOTI NAGRI SIGN ALTERNATE=HASANTA",
   "SYLOTI NAGRI SIGN=ANUSVARA DVISVARA HASANTA",
   "SYLOTI NAGRI VOWEL SIGN=A E I OO U",
   "SYMBOL FOR DELETE FORM,SYMBOL FOR SUBSTITUTE FORM=TWO",
   "SYMBOL FOR DEVICE CONTROL=FOUR ONE THREE TWO",
   "SYMBOL FOR END OF TRANSMISSION=BLOCK",
   "SYMBOL FOR END OF=MEDIUM TEXT TRANSMISSION",
   "SYMBOL FOR HORIZONTAL,SYMBOL FOR VERTICAL=TABULATION",
   "SYMBOL FOR MARKS=CHAPTER",
   "SYMBOL FOR RECORD,SYMBOL FOR UNIT,UNIT=SEPARATOR",
   "SYMBOL FOR START OF=HEADING TEXT",
   "SYMBOL FOR SYNCHRONOUS,SYNCHRONOUS=IDLE",
   "SYMBOL FOR TYPE A=ELECTRONICS",
   "SYMBOL FOR=ACKNOWLEDGE BACKSPACE BELL CANCEL DELETE ENQUIRY ESCAPE NEWLINE NULL SPACE",
   "SYMBOL FOR=SUBSTITUTE",
   "SYRIAC ABBREVIATION,TAG EXCLAMATION,TAG QUESTION,TAG QUOTATION,TAMIL AU LENGTH=MARK",
   "SYRIAC DOTTED ZLAMA=ANGULAR HORIZONTAL",
   "SYRIAC END OF=PARAGRAPH",
   "SYRIAC HARKLEAN=ASTERISCUS METOBELUS OBELUS",
   "SYRIAC HBASA-ESASA=DOTTED",
   "SYRIAC HORIZONTAL,SYRIAC SUBLINEAR,SYRIAC SUPRALINEAR,Z NOTATION TYPE=COLON",
   "SYRIAC LETTER DOTLESS DALATH=RISH",
   "SYRIAC LETTER FINAL=SEMKATH",
   "SYRIAC LETTER GAMAL,SYRIAC LETTER TETH=GARSHUNI",
   "SYRIAC LETTER MALAYALAM=BHA JA LLA LLLA NGA NNA NNNA NYA RA SSA TTA",
   "SYRIAC LETTER PERSIAN=BHETH DHALATH GHAMAL",
   "SYRIAC LETTER SOGDIAN=FE KHAPH ZHAIN",
   "SYRIAC LETTER SUPERSCRIPT=ALAPH",
   "SYRIAC LETTER=ALAPH BETH DALATH E GAMAL HE HETH KAPH LAMADH MIM NUN PE QAPH RISH SADHE",
   "SYRIAC LETTER=SEMKATH SHIN TAW TETH WAW YUDH ZAIN",
   "SYRIAC PTHAHA,SYRIAC ZQAPHA=ABOVE BELOW DOTTED",
   "SYRIAC RBASA,SYRIAC THREE DOTS,SYRIAC TWO VERTICAL DOTS=ABOVE BELOW",
   "SYRIAC SUBLINEAR COLON SKEWED,THREE LINES CONVERGING=LEFT RIGHT",
   "SYRIAC SUPRALINEAR COLON SKEWED,ZNAMENNY COMBINING MARK KRYZH ON=LEFT",
   "SYRIAC=BARREKH CONTRACTION MUSIC QUSHSHAYA RUKKAKHA RWAHA",
   "TAG EQUALS,TAG GREATER-THAN,TAG LESS-THAN,TAG NUMBER,TAG PERCENT,TAG PLUS=SIGN",
   "TAG LATIN CAPITAL LETTER,TAG LATIN SMALL LETTER=A B C D E F G H I J K L M N O P Q R S T U V",
   "TAG LATIN CAPITAL LETTER,TAG LATIN SMALL LETTER=W X Y Z",
   "TAG RIGHT CURLY,TAG RIGHT SQUARE,TOP CURLY,TOP LEFT HALF,TOP RIGHT HALF=BRACKET",
   "TAG=AMPERSAND APOSTROPHE ASTERISK COLON COMMA HYPHEN-MINUS SEMICOLON SOLIDUS SPACE TILDE",
   "TAGALOG LETTER ARCHAIC,TIBETAN LETTER FIXED-FORM=RA",
   "TAGALOG SIGN=PAMUDPOD VIRAMA",
   "TAGALOG VOWEL SIGN,TAGBANWA VOWEL SIGN=I U",
   "TAGBANWA LETTER=A BA DA GA I KA LA MA NA NGA PA SA TA U WA YA",
   "TAI LE LETTER=A AI AUE E EE EH FA HA I KA KHA LA MA NA NGA O OO PA PHA QA SA TA THA TONE-2",
   "TAI LE LETTER=TONE-3 TONE-4 TONE-5 TONE-6 TSA TSHA U UE VA XA YA",
   "TAI THAM CONSONANT SIGN FINAL=NGA",
   "TAI THAM CONSONANT SIGN LA TANG,TAI THAM SIGN MAI KANG=LAI",
   "TAI THAM CONSONANT SIGN LOW,TIBETAN ASTROLOGICAL SIGN -KHYUD,TIBETAN SYMBOL PHUR=PA",
   "TAI THAM CONSONANT SIGN=BA MA SA",
   "TAI THAM HORA DIGIT,TAI THAM THAM DIGIT,TAKRI DIGIT,TAMIL DIGIT,TANGSA DIGIT=EIGHT FIVE FOUR",
   "TAI THAM HORA DIGIT,TAI THAM THAM DIGIT,TAKRI DIGIT,TAMIL DIGIT,TANGSA DIGIT=NINE ONE SEVEN",
   "TAI THAM HORA DIGIT,TAI THAM THAM DIGIT,TAKRI DIGIT,TAMIL DIGIT,TANGSA DIGIT=SIX THREE TWO",
   "TAI THAM HORA DIGIT,TAI THAM THAM DIGIT,TAKRI DIGIT,TAMIL DIGIT,TANGSA DIGIT=ZERO",
   "TAI THAM LETTER GREAT=SA",
   "TAI THAM LETTER HIGH=CA CHA FA HA KA KHA KXA PA PHA RATHA SA SHA SSA TA THA YA",
   "TAI THAM LETTER LOW=CA CHA FA HA KA KHA KXA PA PHA RATHA SA TA THA YA",
   "TAI THAM LETTER=A BA DA EE I II LA LAE LLA LUE MA NA NGA NYA OO RA RANA RATA RUE U UU WA",
   "TAI THAM SIGN KHUEN-LUE=KARAN",
   "TAI THAM SIGN KHUEN=TONE-3 TONE-4 TONE-5",
   "TAI THAM SIGN MAI=KANG SAM YAMOK",
   "TAI THAM SIGN RA=HAAM",
   "TAI THAM SIGN REVERSED ROTATED=RANA",
   "TAI THAM SIGN=CAANG DOKMAI HANG HOY KAAN KAANKUU KEOW SAKOT SATKAAN SATKAANKUU SAWAN TONE-1",
   "TAI THAM SIGN=TONE-2 WIANG WIANGWAAK",
   "TAI THAM VOWEL SIGN MAI=SAT",
   "TAI THAM VOWEL SIGN OA,TILDE WITH DOT,VEDIC TONE CANDRA=ABOVE BELOW",
   "TAI THAM VOWEL SIGN THAM=AI",
   "TAI THAM VOWEL SIGN=A AA AE AI E I II O OO OY U UE UU UUE",
   "TAI VIET LETTER HIGH,TAI VIET LETTER LOW=BO CHO CO DO FO GO HO KHHO KHO KO LO MO NGO NO NYO",
   "TAI VIET LETTER HIGH,TAI VIET LETTER LOW=O PHO PO RO SO THO TO VO YO",
   "TAI VIET MAI=KANG KHIT",
   "TAI VIET SYMBOL HO=HOI",
   "TAI VIET SYMBOL KOI=KOI",
   "TAI VIET SYMBOL=KON NUENG SAM",
   "TAI VIET TONE MAI=EK NUENG SONG THO",
   "TAI VIET VOWEL=AA AM AN AUE AY E I IA O U UA UE UEA",
   "TAKRI ABBREVIATION,TAMIL AND ODD,TAMIL AS ABOVE,TAMIL CREDIT,TAMIL CURRENT=SIGN",
   "TAKRI LETTER ARCHAIC,TIBETAN KU RU=KHA",
   "TAKRI LETTER=A AA AI AU BA BHA CA CHA DA DDA DDHA DHA E GA GHA HA I II JA JHA KA KHA LA MA",
   "TAKRI LETTER=NA NGA NNA NYA O PA PHA RA RRA SA SHA TA THA TTA TTHA U UU VA YA",
   "TALLY MARK=FIVE ONE",
   "TAMIL DAY,TAMIL DEBIT,TAMIL DRY CULTIVATION,TAMIL IN POSSESSION,TAMIL LAND=SIGN",
   "TAMIL FRACTION DOWNSCALING FACTOR=KIIZH",
   "TAMIL FRACTION ONE=EIGHTH EIGHTIETH FIFTH FORTIETH HALF-1 HALF-2 ONE-HUNDRED-AND-SIXTIETH",
   "TAMIL FRACTION ONE=QUARTER SIXTEENTH-1 SIXTEENTH-2 SIXTY-FOURTH TENTH THIRTY-SECOND",
   "TAMIL FRACTION ONE=THREE-HUNDRED-AND-TWENTIETH TWENTIETH",
   "TAMIL FRACTION THREE=EIGHTIETHS QUARTERS SIXTEENTHS SIXTY-FOURTHS TWENTIETHS",
   "TAMIL LETTER=A AA AI AU CA E EE HA I II JA KA LA LLA LLLA MA NA NGA NNA NNNA NYA O OO PA RA",
   "TAMIL LETTER=RRA SA SHA SSA TA TTA U UU VA YA",
   "TAMIL MONTH,TAMIL RUPEE,TAMIL SALT PAN,TAMIL SPENT,TAMIL STARTING FROM=SIGN",
   "TAMIL NUMBER ONE=HUNDRED THOUSAND",
   "TAMIL NUMBER=SIGN TEN",
   "TAMIL SIGN=AAZHAAKKU ANUSVARA CEVITU KAACU KURUNI KUZHI MUKKURUNI MUTHALIYA MUUVUZHAKKU NEL",
   "TAMIL SIGN=PAARAM PANAM PATHAKKU PON UZHAKKU VAKAIYARAA VARAAKAN VELI VIRAMA VISARGA",
   "TAMIL TOTAL,TAMIL TRADITIONAL CREDIT,TAMIL TRADITIONAL NUMBER=SIGN",
   "TAMIL WET CULTIVATION,TAMIL YEAR,TELEPHONE LOCATION,TENGE,THUMBS DOWN=SIGN",
   "TANABATA=TREE",
   "TANGSA LETTER FINAL=NG",
   "TANGSA LETTER LONG=UEX",
   "TANGSA LETTER SHORT=AWX UEZ",
   "TANGSA LETTER=AC AQ AWC AWQ AWX AWZ AX AZ BA CA CHA DA DHA EC EQ EX EZ FA GA GHA HA HTA HTTA",
   "TANGSA LETTER=IC IQ IX IZ KA KHA LA MA MC MQ MX MZ NA NGA NHA NYA OC OQ OX OZ PA PHA RA SA",
   "TANGSA LETTER=SHA TA THA TSA UC UEC UEQ UEX UEZ UIC UIQ UIUC UIUQ UIUX UIUZ UIX UIZ UQ UX UZ",
   "TANGSA LETTER=VC VQ VX VZ WA XA YA ZA",
   "TANGUT ITERATION,TELUGU AI LENGTH,TELUGU LENGTH=MARK",
   "TAPE=CARTRIDGE DRIVE",
   "TEAR-OFF=CALENDAR",
   "TEARDROP-BARBED RIGHTWARDS,TILDE OPERATOR ABOVE LEFTWARDS=ARROW",
   "TEDDY=BEAR",
   "TELEPHONE ON TOP OF=MODEM",
   "TELEPHONE=RECEIVER RECORDER SIGN",
   "TELUGU DIGIT,THAI DIGIT,TIBETAN DIGIT,TIBETAN DIGIT HALF,TIRHUTA DIGIT=EIGHT FIVE FOUR NINE",
   "TELUGU DIGIT,THAI DIGIT,TIBETAN DIGIT,TIBETAN DIGIT HALF,TIRHUTA DIGIT=ONE SEVEN SIX THREE",
   "TELUGU DIGIT,THAI DIGIT,TIBETAN DIGIT,TIBETAN DIGIT HALF,TIRHUTA DIGIT=TWO ZERO",
   "TELUGU FRACTION DIGIT ONE FOR ODD POWERS OF=FOUR",
   "TELUGU FRACTION DIGIT THREE FOR EVEN POWERS OF=FOUR",
   "TELUGU FRACTION DIGIT THREE FOR ODD POWERS OF=FOUR",
   "TELUGU FRACTION DIGIT TWO FOR EVEN POWERS OF=FOUR",
   "TELUGU FRACTION DIGIT TWO FOR ODD POWERS OF=FOUR",
   "TELUGU FRACTION DIGIT ZERO FOR ODD POWERS OF=FOUR",
   "TELUGU LETTER VOCALIC,TELUGU VOWEL SIGN VOCALIC,TIBETAN VOWEL SIGN VOCALIC=L LL R RR",
   "TELUGU LETTER=A AA AI AU BA BHA CA CHA DA DDA DDHA DHA DZA E EE GA GHA HA I II JA JHA KA KHA",
   "TELUGU LETTER=LA LLA LLLA MA NA NGA NNA NYA O OO PA PHA RA RRA RRRA SA SHA SSA TA THA TSA",
   "TELUGU LETTER=TTA TTHA U UU VA YA",
   "TELUGU SIGN COMBINING CANDRABINDU,TILDE OPERATOR WITH DOT,TILDE WITH RING=ABOVE",
   "TELUGU SIGN=ANUSVARA AVAGRAHA CANDRABINDU NUKTA SIDDHAM TUUMU VIRAMA VISARGA",
   "TELUGU VOWEL SIGN=AA AI AU E EE I II O OO U UU",
   "TEST=TUBE",
   "TETRAGRAM FOR BOLD=RESOLUTION",
   "TETRAGRAM FOR CLOSED=MOUTH",
   "TETRAGRAM FOR DEFECTIVENESS OR=DISTORTION",
   "TETRAGRAM FOR GATHERING=IN",
   "TETRAGRAM FOR HOLDING=BACK",
   "TETRAGRAM FOR LAW OR=MODEL",
   "TETRAGRAM FOR ON THE=VERGE",
   "TETRAGRAM FOR VASTNESS OR=WASTING",
   "TETRAGRAM FOR=ACCUMULATION ADVANCE AGGRAVATION ASCENT BARRIER CENTRE CHANGE CLOSENESS",
   "TETRAGRAM FOR=CLOSURE COMPLETION COMPLIANCE CONSTANCY CONTACT CONTENTION CONTRARIETY",
   "TETRAGRAM FOR=DARKENING DECISIVENESS DEPARTURE DIFFICULTIES DIMINISHMENT DIMMING DIVERGENCE",
   "TETRAGRAM FOR=DOUBT DUTIES EASE EMBELLISHMENT ENCOUNTERS ENDEAVOUR ENLARGEMENT ETERNITY",
   "TETRAGRAM FOR=EXHAUSTION FAILURE FLIGHT FOLLOWING FOSTERING FULLNESS GATHERING GREATNESS",
   "TETRAGRAM FOR=GUARDEDNESS HARDNESS INCREASE INNER JOY KINSHIP LABOURING LEGION MASSING",
   "TETRAGRAM FOR=MEASURE MIRED OPPOSITION PACKING PATTERN PENETRATION PURITY REACH RELEASE",
   "TETRAGRAM FOR=RESIDENCE RESISTANCE RESPONSE RITUAL SEVERANCE SINKING STOPPAGE STOVE STRENGTH",
   "TETRAGRAM FOR=UNITY WAITING WATCH YOUTHFULNESS",
   "THAANA LETTER=AINU ALIFU BAA CHAVIYANI DAADHU DAVIYANI DHAALU FAAFU GAAFU GHAINU GNAVIYANI",
   "THAANA LETTER=HAA HHAA JAVIYANI KAAFU KHAA LAAMU LHAVIYANI MEEMU NAA NOONU PAVIYANI QAAFU",
   "THAANA LETTER=RAA SAADHU SEENU SHAVIYANI SHEENU TAVIYANI THAA THAALU TO TTAA VAAVU WAAVU YAA",
   "THAANA LETTER=ZAA ZAVIYANI ZO",
   "THAANA=AABAAFILI ABAFILI EBEFILI EEBEEFILI EYBEYFILI IBIFILI OABOAFILI OBOFILI OOBOOFILI",
   "THAANA=SUKUN UBUFILI",
   "THAI CHARACTER BO=BAIMAI",
   "THAI CHARACTER CHO=CHAN CHANG CHING CHOE",
   "THAI CHARACTER DO=CHADA DEK",
   "THAI CHARACTER FO=FA FAN",
   "THAI CHARACTER HO=HIP NOKHUK",
   "THAI CHARACTER KHO=KHAI KHON KHUAT KHWAI RAKHANG",
   "THAI CHARACTER KO=KAI",
   "THAI CHARACTER LO=CHULA LING",
   "THAI CHARACTER MAI=CHATTAWA EK HAN-AKAT THO TRI",
   "THAI CHARACTER NGO=NGU",
   "THAI CHARACTER NO=NEN NU",
   "THAI CHARACTER O=ANG",
   "THAI CHARACTER PHO=PHAN PHUNG SAMPHAO",
   "THAI CHARACTER PO=PLA",
   "THAI CHARACTER RO=RUA",
   "THAI CHARACTER SARA AI=MAIMALAI MAIMUAN",
   "THAI CHARACTER SARA=A AA AE AM E I II O U UE UEE UU",
   "THAI CHARACTER SO=RUSI SALA SO SUA",
   "THAI CHARACTER THO=NANGMONTHO PHUTHAO THAHAN THAN THONG THUNG",
   "THAI CHARACTER TO=PATAK TAO",
   "THAI CHARACTER WO=WAEN",
   "THAI CHARACTER YO=YAK YING",
   "THAI CHARACTER=ANGKHANKHU FONGMAN KHOMUT LAKKHANGYAO LU MAITAIKHU MAIYAMOK NIKHAHIT",
   "THAI CHARACTER=PAIYANNOI PHINTHU RU THANTHAKHAT YAMAKKAN",
   "THAI CURRENCY SYMBOL=BAHT",
   "THERE DOES NOT=EXIST",
   "THERE=EXISTS",
   "THIN=SALTIRE SPACE",
   "THONG=SANDAL",
   "THREE CONSECUTIVE EQUALS,TWO CONSECUTIVE EQUALS=SIGNS",
   "THREE NETWORKED=COMPUTERS",
   "THREE POINTED BLACK,TWELVE POINTED BLACK,VERY HEAVY EIGHT POINTED BLACK=STAR",
   "THREE RAYS=ABOVE BELOW LEFT RIGHT",
   "THREE SPEECH,TWO SPEECH=BUBBLES",
   "THREE-D LEFT-LIGHTED DOWNWARDS EQUILATERAL=ARROWHEAD",
   "THREE-D RIGHT-LIGHTED UPWARDS EQUILATERAL=ARROWHEAD",
   "THREE-D TOP-LIGHTED LEFTWARDS EQUILATERAL,THREE-D TOP-LIGHTED RIGHTWARDS=ARROWHEAD",
   "THREE-D TOP-LIGHTED RIGHTWARDS EQUILATERAL,UPWARDS ARROW WITH EQUILATERAL=ARROWHEAD",
   "THUMBS UP,TIRHUTA ABBREVIATION,TOP HALF SECTION,TRADE MARK,TUGRIK,TURKISH LIRA=SIGN",
   "THUNDER CLOUD AND,WHITE SUN BEHIND CLOUD WITH=RAIN",
   "TIBETAN ASTROLOGICAL SIGN SDONG=TSHUGS",
   "TIBETAN ASTROLOGICAL SIGN SGRA GCAN -CHAR,TIBETAN LOGOTYPE SIGN CHAD=RTAGS",
   "TIBETAN CANTILLATION SIGN CANG=TE-U",
   "TIBETAN CANTILLATION SIGN HEAVY,TIBETAN CANTILLATION SIGN LIGHT=BEAT",
   "TIBETAN CANTILLATION SIGN SBUB=-CHAL",
   "TIBETAN KU RU KHA BZHI MIG,TIBETAN MARK CARET -DZUD RTAGS BZHI MIG=CAN",
   "TIBETAN LETTER=-A A BA BHA CA CHA DA DDA DDHA DHA DZA DZHA GA GHA HA JA KA KHA KKA KSSA LA",
   "TIBETAN LETTER=MA NA NGA NNA NYA PA PHA RA RRA SA SHA SSA TA THA TSA TSHA TTA TTHA WA YA ZA",
   "TIBETAN LETTER=ZHA",
   "TIBETAN LOGOTYPE SIGN LHAG,TIBETAN MARK BSDUS,TIBETAN MARK LEADING MCHAN=RTAGS",
   "TIBETAN MARK ANG KHANG,TIBETAN MARK GUG RTAGS=GYAS GYON",
   "TIBETAN MARK BKA- SHOG GI MGO,TIBETAN MARK BSKA- SHOG GI MGO=RGYAN",
   "TIBETAN MARK BKA- SHOG YIG,TIBETAN MARK BSKUR YIG,TIBETAN MARK CHE=MGO",
   "TIBETAN MARK CARET -DZUD RTAGS ME LONG,TIBETAN SIGN INVERTED MCHU=CAN",
   "TIBETAN MARK CLOSING BRDA RNYING YIG MGO SGAB,TIBETAN MARK CLOSING YIG MGO SGAB=MA",
   "TIBETAN MARK DELIMITER TSHEG=BSTAR",
   "TIBETAN MARK GTER YIG MGO -UM GTER TSHEG,TIBETAN MARK GTER YIG MGO -UM RNAM BCAD=MA",
   "TIBETAN MARK GTER,TIBETAN MARK INTERSYLLABIC,ZANABAZAR SQUARE MARK LONG=TSHEG",
   "TIBETAN MARK INITIAL BRDA RNYING YIG MGO MDUN,TIBETAN MARK INITIAL YIG MGO MDUN=MA",
   "TIBETAN MARK MNYAM YIG GI MGO=RGYAN",
   "TIBETAN MARK NGAS BZUNG NYI=ZLA",
   "TIBETAN MARK NGAS BZUNG SGOR,TIBETAN MARK TRAILING MCHAN,TIBETAN SIGN LCI=RTAGS",
   "TIBETAN MARK NYIS TSHEG,TIBETAN MARK RGYA GRAM,TIBETAN MARK RIN CHEN SPUNGS=SHAD",
   "TIBETAN MARK NYIS,ZANABAZAR SQUARE MARK=SHAD TSHEG",
   "TIBETAN MARK SBRUL,TIBETAN MARK TSHEG,ZANABAZAR SQUARE MARK DOUBLE=SHAD",
   "TIBETAN MARK TSA=-PHRU",
   "TIBETAN MARK YIG MGO TSHEG SHAD=MA",
   "TIBETAN MARK=HALANTA PALUTA SHAD",
   "TIBETAN SIGN GRU CAN,TIBETAN SIGN GRU MED=RGYINGS",
   "TIBETAN SIGN LCE TSA,TIBETAN SIGN MCHU,TIBETAN SUBJOINED SIGN INVERTED MCHU=CAN",
   "TIBETAN SIGN MAR,TIBETAN SIGN YAR=TSHES",
   "TIBETAN SIGN RDEL DKAR RDEL=NAG",
   "TIBETAN SIGN RDEL DKAR,TIBETAN SIGN RDEL NAG=GCIG GNYIS GSUM",
   "TIBETAN SIGN RDEL NAG RDEL=DKAR",
   "TIBETAN SIGN RNAM=BCAD",
   "TIBETAN SIGN SNA=LDAN",
   "TIBETAN SIGN YANG=RTAGS",
   "TIBETAN SUBJOINED LETTER FIXED-FORM=RA WA YA",
   "TIBETAN SUBJOINED LETTER=-A A BA BHA CA CHA DA DDA DDHA DHA DZA DZHA GA GHA HA JA KA KHA",
   "TIBETAN SUBJOINED LETTER=KSSA LA MA NA NGA NNA NYA PA PHA RA SA SHA SSA TA THA TSA TSHA TTA",
   "TIBETAN SUBJOINED LETTER=TTHA WA YA ZA ZHA",
   "TIBETAN SUBJOINED SIGN LCE TSA,TIBETAN SUBJOINED SIGN MCHU=CAN",
   "TIBETAN SYMBOL NOR BU BZHI,TIBETAN SYMBOL NOR BU GSUM=-KHYIL",
   "TIBETAN SYMBOL NOR BU NYIS=-KHYIL",
   "TIBETAN SYMBOL PADMA=GDAN",
   "TIBETAN SYMBOL RDO RJE RGYA=GRAM",
   "TIBETAN SYMBOL RDO=RJE",
   "TIBETAN VOWEL SIGN=AA E EE I II O OO U UU",
   "TIFINAGH LETTER AHAGGAR=YAZH",
   "TIFINAGH LETTER AYER=YAGH",
   "TIFINAGH LETTER BERBER ACADEMY=YAH YAJ",
   "TIFINAGH LETTER TAWELLEMET=YAZ",
   "TIFINAGH LETTER TUAREG=YAGH YAGN YAH YAK YAKH YANG YAQ YAZH",
   "TIFINAGH LETTER=YA YAA YAB YABH YACH YAD YADD YADDH YADH YAF YAG YAGH YAGHH YAH YAHH YAJ YAK",
   "TIFINAGH LETTER=YAKH YAKHH YAL YAM YAN YAP YAQ YAR YARR YAS YASH YASS YAT YATH YATT YAV YAW",
   "TIFINAGH LETTER=YAY YAZ YAZH YAZZ YE YEY YI YO YU",
   "TIFINAGH MODIFIER LETTER LABIALIZATION,TIFINAGH SEPARATOR,VAI QUESTION=MARK",
   "TILDE OPERATOR ABOVE RIGHTWARDS,TOP ARC ANTICLOCKWISE=ARROW",
   "TIMES WITH RIGHT HALF,UP-POINTING TRIANGLE WITH LEFT HALF=BLACK",
   "TIRHUTA LETTER VOCALIC,TIRHUTA VOWEL SIGN VOCALIC=L LL R RR",
   "TIRHUTA VOWEL SIGN SHORT=E O",
   "TIRHUTA VOWEL SIGN=AA AI AU E I II O U UU",
   "TIRHUTA=ANJI GVANG OM",
   "TIRONIAN SIGN,TIRONIAN SIGN CAPITAL=ET",
   "TOKYO=TOWER",
   "TOP ARC ANTICLOCKWISE ARROW WITH=PLUS",
   "TOP SQUARE,TOP TORTOISE SHELL,Z NOTATION LEFT BINDING,Z NOTATION LEFT IMAGE=BRACKET",
   "TOP WITH UPWARDS ARROW,TRIANGLE WITH DOT,UP TACK WITH CIRCLE=ABOVE",
   "TOP=HAT PARENTHESIS",
   "TORTOISE SHELL BRACKETED CJK UNIFIED=IDEOGRAPH-4E09 IDEOGRAPH-4E8C IDEOGRAPH-52DD",
   "TORTOISE SHELL BRACKETED CJK UNIFIED=IDEOGRAPH-5B89 IDEOGRAPH-6253 IDEOGRAPH-6557",
   "TORTOISE SHELL BRACKETED CJK UNIFIED=IDEOGRAPH-672C IDEOGRAPH-70B9 IDEOGRAPH-76D7",
   "TORTOISE SHELL BRACKETED LATIN CAPITAL LETTER=S",
   "TOTAL=RUNOUT",
   "TOTO LETTER BREATHY=AE E EO I IU",
   "TOTO LETTER=A AE BA CHA DA E EO GA HA I IU JA KA LA MA NA NGA O PA RA SA TA U WA YA",
   "TRIANGLE-HEADED RIGHTWARDS,UP DOWN,UP DOWN BLACK,UP DOWN DOUBLE=ARROW",
   "TRIANGULAR FLAG ON=POST",
   "TRIANGULAR=BULLET RULER",
   "TRIDENT=EMBLEM",
   "TRIGRAM FOR=EARTH FIRE HEAVEN LAKE MOUNTAIN THUNDER WATER WIND",
   "TRIPLE COLON,TWO LOGICAL AND,TWO LOGICAL OR=OPERATOR",
   "TRIPLE HORIZONTAL BAR WITH TRIPLE VERTICAL=STROKE",
   "TRIPLE VERTICAL BAR BINARY=RELATION",
   "TRIPLE VERTICAL BAR WITH HORIZONTAL,UPWARDS ARROW WITH DOUBLE=STROKE",
   "TRIPLE=DAGGER INTEGRAL PLUS PRIME TILDE",
   "TROPICAL=DRINK FISH",
   "TRUE LIGHT MOON=ARTA",
   "TURNED BLACK=PENTAGON",
   "TURNED CAPITAL,TURNED SMALL=F",
   "TURNED GREEK SMALL LETTER=IOTA",
   "TURNED NOT,TURNED OK HAND,UNCERTAINTY,UNION WITH MINUS=SIGN",
   "TURNED SANS-SERIF CAPITAL=G L Y",
   "TURNED SOUTH EAST POINTING,TURNED SOUTH WEST POINTING=LEAF",
   "TURNED WHITE SHOGI,WHITE SHOGI=PIECE",
   "TURNED=AMPERSAND ANGLE COMMA DAGGER SEMICOLON",
   "TWISTED RIGHTWARDS,UPWARDS PAIRED,UPWARDS TRIANGLE-HEADED PAIRED=ARROWS",
   "TWO ASTERISKS ALIGNED=VERTICALLY",
   "TWO DOT=LEADER PUNCTUATION",
   "TWO DOTS OVER ONE DOT=PUNCTUATION",
   "TWO WOMEN HOLDING=HANDS"]

def rowsFromU : List String :=
  ["UGARITIC LETTER=AIN ALPA BETA DELTA DHAL GAMLA GHAIN HO HOTA I KAF KHA LAMDA MEM NUN PU QOPA",
   "UGARITIC LETTER=RASHA SADE SAMKA SHIN SSU TET THANNA TO U WO YOD ZETA ZU",
   "UMBRELLA WITH RAIN=DROPS",
   "UNION ABOVE BAR ABOVE=INTERSECTION",
   "UNION WITH LOGICAL=OR",
   "UNMARRIED PARTNERSHIP,WANING CRESCENT MOON,WANING GIBBOUS MOON=SYMBOL",
   "UP ARROWHEAD BETWEEN TWO HORIZONTAL=BARS",
   "UP BARB LEFT DOWN BARB LEFT,UP BARB LEFT DOWN BARB RIGHT=HARPOON",
   "UP BARB RIGHT DOWN BARB LEFT,UP BARB RIGHT DOWN BARB RIGHT=HARPOON",
   "UP DOWN ARROW WITH=BASE",
   "UP DOWN SANS-SERIF,UP DOWN TRIANGLE-HEADED,UP DOWN WHITE=ARROW",
   "UP-POINTING TRIANGLE WITH RIGHT HALF=BLACK",
   "UPPER AND LEFT AND LOWER TRIANGULAR THREE QUARTERS,UPPER AND LOWER ONE EIGHTH=BLOCK",
   "UPPER AND LOWER TRIANGULAR HALF=BLOCK",
   "UPPER AND RIGHT AND LOWER TRIANGULAR THREE QUARTERS,UPPER FIVE EIGHTHS=BLOCK",
   "UPPER BLADE=SCISSORS",
   "UPPER HALF BLOCK AND LOWER HALF INVERSE MEDIUM,UPPER HALF MEDIUM=SHADE",
   "UPPER HALF INVERSE MEDIUM SHADE AND LOWER HALF,UPPER ONE EIGHTH=BLOCK",
   "UPPER HALF INVERSE WHITE,UPWARDS TWO-HEADED ARROW FROM SMALL=CIRCLE",
   "UPPER LEFT BLOCK DIAGONAL LOWER CENTRE TO LOWER MIDDLE=RIGHT",
   "UPPER LEFT BLOCK DIAGONAL LOWER CENTRE TO UPPER MIDDLE=RIGHT",
   "UPPER LEFT BLOCK DIAGONAL LOWER CENTRE TO UPPER=RIGHT",
   "UPPER LEFT BLOCK DIAGONAL LOWER LEFT TO LOWER MIDDLE=RIGHT",
   "UPPER LEFT BLOCK DIAGONAL LOWER LEFT TO UPPER MIDDLE=RIGHT",
   "UPPER LEFT BLOCK DIAGONAL LOWER LEFT TO UPPER=CENTRE",
   "UPPER LEFT BLOCK DIAGONAL LOWER MIDDLE LEFT TO UPPER MIDDLE=RIGHT",
   "UPPER LEFT BLOCK DIAGONAL LOWER MIDDLE LEFT TO UPPER=CENTRE RIGHT",
   "UPPER LEFT BLOCK DIAGONAL UPPER MIDDLE LEFT TO UPPER=CENTRE RIGHT",
   "UPPER LEFT CORNER WITH,VERTICAL LINE WITH MIDDLE,WHITE DIAMOND WITH CENTRED=DOT",
   "UPPER LEFT OR LOWER RIGHT CURLY BRACKET=SECTION",
   "UPPER LEFT QUADRANT CIRCULAR,UPPER RIGHT QUADRANT CIRCULAR=ARC",
   "UPPER LEFT TO LOWER RIGHT,UPPER RIGHT TO LOWER LEFT=FILL",
   "UPPER LEFT TRIANGULAR MEDIUM,UPPER RIGHT TRIANGULAR MEDIUM=SHADE",
   "UPPER LEFT,VERTICAL BAR BESIDE RIGHT,WHITE DOWN-POINTING=TRIANGLE",
   "UPPER ONE QUARTER,UPPER SEVEN EIGHTHS,UPPER THREE EIGHTHS=BLOCK",
   "UPPER RIGHT BLOCK DIAGONAL LOWER MIDDLE LEFT TO LOWER=CENTRE RIGHT",
   "UPPER RIGHT BLOCK DIAGONAL UPPER CENTRE TO LOWER MIDDLE=RIGHT",
   "UPPER RIGHT BLOCK DIAGONAL UPPER CENTRE TO LOWER=RIGHT",
   "UPPER RIGHT BLOCK DIAGONAL UPPER CENTRE TO UPPER MIDDLE=RIGHT",
   "UPPER RIGHT BLOCK DIAGONAL UPPER LEFT TO LOWER MIDDLE=RIGHT",
   "UPPER RIGHT BLOCK DIAGONAL UPPER LEFT TO LOWER=CENTRE",
   "UPPER RIGHT BLOCK DIAGONAL UPPER LEFT TO UPPER MIDDLE=RIGHT",
   "UPPER RIGHT BLOCK DIAGONAL UPPER MIDDLE LEFT TO LOWER MIDDLE=RIGHT",
   "UPPER RIGHT BLOCK DIAGONAL UPPER MIDDLE LEFT TO LOWER=CENTRE RIGHT",
   "UPPER RIGHT OR LOWER LEFT CURLY BRACKET=SECTION",
   "UPPER THREE QUARTERS,UPPER TRIANGULAR ONE QUARTER=BLOCK",
   "UPWARDS ARROW AND RIGHT ONE EIGHTH=BLOCK",
   "UPWARDS ARROW FROM,UPWARDS ARROW TO,UPWARDS HARPOON WITH BARB LEFT FROM=BAR",
   "UPWARDS ARROW LEFTWARDS OF DOWNWARDS,UPWARDS BLACK=ARROW",
   "UPWARDS ARROW WITH HORIZONTAL=STROKE",
   "UPWARDS ARROW WITH LARGE TRIANGLE,UPWARDS ARROW WITH MEDIUM TRIANGLE=ARROWHEAD",
   "UPWARDS ARROW WITH SMALL EQUILATERAL,UPWARDS ARROW WITH SMALL TRIANGLE=ARROWHEAD",
   "UPWARDS ARROW WITH TIP,UPWARDS HARPOON WITH BARB=LEFTWARDS RIGHTWARDS",
   "UPWARDS BLACK CIRCLED WHITE,UPWARDS COMPRESSED,UPWARDS DASHED,UPWARDS DOUBLE=ARROW",
   "UPWARDS FINGER-POST,UPWARDS HEAVY,UPWARDS HEAVY COMPRESSED,UPWARDS QUADRUPLE=ARROW",
   "UPWARDS HARPOON WITH BARB LEFT BESIDE DOWNWARDS HARPOON WITH BARB=RIGHT",
   "UPWARDS HARPOON WITH BARB LEFT BESIDE UPWARDS HARPOON WITH BARB=RIGHT",
   "UPWARDS HARPOON WITH BARB LEFT TO,UPWARDS HARPOON WITH BARB RIGHT FROM=BAR",
   "UPWARDS HARPOON WITH BARB RIGHT TO,UPWARDS TRIANGLE-HEADED ARROW TO=BAR",
   "UPWARDS SANS-SERIF,UPWARDS SQUARED,UPWARDS TRIANGLE-HEADED=ARROW",
   "UPWARDS TRIANGLE,UPWARDS WHITE ARROW WITHIN TRIANGLE=ARROWHEAD",
   "UPWARDS TRIANGLE-HEADED ARROW LEFTWARDS OF DOWNWARDS TRIANGLE-HEADED=ARROW",
   "UPWARDS TRIANGLE-HEADED ARROW WITH BOLD=SHAFT",
   "UPWARDS TRIANGLE-HEADED ARROW WITH DOUBLE HORIZONTAL=STROKE",
   "UPWARDS TRIANGLE-HEADED ARROW WITH HEAVY=SHAFT",
   "UPWARDS TRIANGLE-HEADED ARROW WITH LONG TIP=LEFTWARDS RIGHTWARDS",
   "UPWARDS TRIANGLE-HEADED ARROW WITH MEDIUM=SHAFT",
   "UPWARDS TRIANGLE-HEADED ARROW WITH NARROW=SHAFT",
   "UPWARDS TRIANGLE-HEADED ARROW WITH VERY HEAVY=SHAFT",
   "UPWARDS TRIANGLE-HEADED DASHED,UPWARDS TRIPLE,UPWARDS TWO HEADED=ARROW",
   "UPWARDS TWO-HEADED ARROW WITH TRIANGLE=ARROWHEADS",
   "UPWARDS WHITE ARROW FROM,UPWARDS WHITE ARROW FROM BAR WITH HORIZONTAL=BAR",
   "UPWARDS WHITE ARROW ON PEDESTAL WITH HORIZONTAL=BAR",
   "UPWARDS WHITE ARROW ON PEDESTAL WITH VERTICAL=BAR",
   "UPWARDS WHITE ARROW ON,UPWARDS WHITE DOUBLE ARROW ON=PEDESTAL",
   "UPWARDS WHITE,UPWARDS WHITE DOUBLE,WEDGE-TAILED RIGHTWARDS=ARROW",
   "VAI DIGIT,WANCHO DIGIT,WARANG CITI DIGIT=EIGHT FIVE FOUR NINE ONE SEVEN SIX THREE TWO ZERO",
   "VAI FULL=STOP",
   "VAI SYLLABLE NDOLE=DO FA KA MA SOO",
   "VAI SYLLABLE=A AN BA BE BEE BHA BHE BHEE BHI BHO BHOO BHU BI BO BOO BU CA CE CEE CI CO COO",
   "VAI SYLLABLE=CU DA DE DEE DHA DHE DHEE DHHA DHHE DHHEE DHHI DHHO DHHOO DHHU DHI DHO DHOO DHU",
   "VAI SYLLABLE=DI DO DOO DU E EE EEN EN FA FE FEE FI FO FOO FU GA GBA GBE GBEE GBEN GBI GBO",
   "VAI SYLLABLE=GBON GBOO GBU GE GEE GEN GI GO GOO GU HA HAN HE HEE HEN HI HIN HO HON HOO HU",
   "VAI SYLLABLE=HUN I IN JA JE JEE JI JO JOO JU KA KAN KE KEE KI KO KOO KPA KPAN KPE KPEE KPEN",
   "VAI SYLLABLE=KPI KPO KPOO KPU KU LA LE LEE LENGTHENER LI LO LOO LU MA MBA MBE MBEE MBI MBO",
   "VAI SYLLABLE=MBOO MBU ME MEE MGBA MGBE MGBEE MGBI MGBO MGBOO MGBU MI MO MOO MU NA NDA NDE",
   "VAI SYLLABLE=NDEE NDI NDO NDOO NDU NE NEE NG NGAN NGEN NGGA NGGE NGGEE NGGEN NGGI NGGO NGGOO",
   "VAI SYLLABLE=NGGU NGON NI NJA NJE NJEE NJI NJO NJOO NJU NO NOO NU NYA NYE NYEE NYI NYO NYOO",
   "VAI SYLLABLE=NYU O ON OO OON PA PE PEE PI PO POO PU RA RE REE RI RO ROO RU SA SE SEE SHA SHE",
   "VAI SYLLABLE=SHEE SHI SHO SHOO SHU SI SO SOO SU TA TE TEE THA THE THEE THI THO THOO THU TI",
   "VAI SYLLABLE=TO TOO TU U UN VA VE VEE VI VO VOO VU WA WAN WE WEE WEEN WEN WI WIN WO WON WOO",
   "VAI SYLLABLE=WOON WU WUN YA YE YEE YI YO YOO YU ZA ZE ZEE ZHA ZHE ZHEE ZHI ZHO ZHOO ZHU ZI",
   "VAI SYLLABLE=ZO ZOO ZU",
   "VAI SYMBOL=BANG DANG DO-O DOONG FAA FEENG JONG KEENG KUNG NII TAA TING TONG",
   "VEDIC SIGN ANUSVARA UBHAYATO=MUKHA",
   "VEDIC SIGN ANUSVARA VAMAGOMUKHA WITH,VEDIC SIGN VISARGA ANUDATTA WITH=TAIL",
   "VEDIC SIGN ANUSVARA=ANTARGOMUKHA BAHIRGOMUKHA VAMAGOMUKHA",
   "VEDIC SIGN DOUBLE ANUSVARA=ANTARGOMUKHA",
   "VEDIC SIGN HEXIFORM LONG,VEDIC SIGN LONG,VEDIC SIGN RTHANG LONG=ANUSVARA",
   "VEDIC SIGN ROTATED=ARDHAVISARGA",
   "VEDIC SIGN VISARGA UDATTA WITH=TAIL",
   "VEDIC SIGN VISARGA=ANUDATTA SVARITA UDATTA",
   "VEDIC SIGN YAJURVEDIC MIDLINE,VEDIC TONE ATHARVAVEDIC INDEPENDENT=SVARITA",
   "VEDIC SIGN=ARDHAVISARGA ATIKRAMA JIHVAMULIYA NIHSHVASA TIRYAK UPADHMANIYA",
   "VEDIC TONE DOUBLE RING,VEDIC TONE RING,YEZIDI LETTER LAM WITH DOT=ABOVE",
   "VEDIC TONE DOUBLE,VEDIC TONE RIGVEDIC KASHMIRI INDEPENDENT=SVARITA",
   "VEDIC TONE KATHAKA=ANUDATTA",
   "VEDIC TONE TRIPLE,VEDIC TONE YAJURVEDIC AGGRAVATED INDEPENDENT=SVARITA",
   "VEDIC TONE TWO DOTS=BELOW",
   "VEDIC TONE YAJURVEDIC INDEPENDENT,VEDIC TONE YAJURVEDIC KATHAKA INDEPENDENT=SVARITA",
   "VEDIC TONE YAJURVEDIC KATHAKA INDEPENDENT SVARITA=SCHROEDER",
   "VEDIC TONE=KARSHANA PRENKHA SHARA",
   "VERTICAL BAR DOUBLE LEFT,VERTICAL BAR TRIPLE RIGHT=TURNSTILE",
   "VERTICAL BAR WITH HORIZONTAL=STROKE",
   "VERTICAL FOUR,VERTICAL SIX,WHITE CIRCLE WITH TWO=DOTS",
   "VERTICAL IDEOGRAPHIC ITERATION,VERTICAL KANA REPEAT=MARK",
   "VERTICAL KANA REPEAT MARK UPPER=HALF",
   "VERTICAL KANA REPEAT WITH VOICED SOUND MARK UPPER=HALF",
   "VERTICAL KANA REPEAT WITH VOICED SOUND,WHITE HEAVY CHECK=MARK",
   "VERTICAL LINE WITH CIRCLE=ABOVE BELOW",
   "VERTICAL MALE WITH STROKE,WANCHO NGUN,WARNING,WAVING HAND,WON,YEN=SIGN",
   "VERTICAL ONE EIGHTH=BLOCK-2 BLOCK-3 BLOCK-4 BLOCK-5 BLOCK-6 BLOCK-7",
   "VERTICAL TABULATION=SET",
   "VERTICAL TRAFFIC=LIGHT",
   "VERTICAL=ELLIPSIS LINE TABULATION TILDE",
   "VERY BOLD GREEK,VERY HEAVY GREEK,VOIDED GREEK,WEST SYRIAC,WHITE LATIN=CROSS",
   "VERY HEAVY EIGHT SPOKED,VERY HEAVY FIVE SPOKED,VERY HEAVY SIX SPOKED=ASTERISK",
   "VERY HEAVY WHITE=CIRCLE SQUARE",
   "VERY HEAVY=SALTIRE SOLIDUS",
   "VIBRATION=MODE",
   "VIDEO=CAMERA GAME",
   "VIETNAMESE ALTERNATE READING MARK=CA NHAY",
   "VIEWDATA,WHITE DIAMOND IN,WHITE LARGE,WHITE MEDIUM SMALL=SQUARE",
   "VITHKUQI CAPITAL LETTER,VITHKUQI SMALL LETTER=A BBE BE CE CHE DE DHE E EI FE GA HA HHA I IJE",
   "VITHKUQI CAPITAL LETTER,VITHKUQI SMALL LETTER=JE KA LA LLA ME NE NJE O PE QA RE SE SHE TE",
   "VITHKUQI CAPITAL LETTER,VITHKUQI SMALL LETTER=THE U VE XE Y ZE",
   "VULGAR FRACTION FIVE=EIGHTHS SIXTHS",
   "VULGAR FRACTION FOUR=FIFTHS",
   "VULGAR FRACTION ONE=EIGHTH FIFTH HALF NINTH QUARTER SEVENTH SIXTH TENTH THIRD",
   "VULGAR FRACTION SEVEN=EIGHTHS",
   "VULGAR FRACTION THREE=EIGHTHS FIFTHS QUARTERS",
   "VULGAR FRACTION TWO=FIFTHS THIRDS",
   "WANCHO LETTER=A AA AAN AANG ANG AU BA CA DA E EN FA GA HA I ING JA KA KHA LA LLHA MA NA NGA",
   "WANCHO LETTER=NYA O ON ONG PA PHA RA SA SHA TA THA TRA TSA U UEN VA WA YA YIH ZA",
   "WANCHO TONE=KOI KOINI TUP TUPNI",
   "WARANG CITI CAPITAL LETTER,WARANG CITI SMALL LETTER=A AM ANG AT BU DA E ENN ENY GA HAR HIYO",
   "WARANG CITI CAPITAL LETTER,WARANG CITI SMALL LETTER=HOLO HORR II KO NGAA NUNG O ODD PU SII",
   "WARANG CITI CAPITAL LETTER,WARANG CITI SMALL LETTER=SSUU TTE UC UU VIYO WI YA YO YU YUJ",
   "WATER=BUFFALO CLOSET POLO WAVE",
   "WAVE ARROW POINTING DIRECTLY,ZNAMENNY COMBINING MARK GORAZDO NIZKO ON=LEFT RIGHT",
   "WAVY=DASH LINE OVERLINE",
   "WAXING CRESCENT MOON,WAXING GIBBOUS MOON,WHEELCHAIR,WOMENS=SYMBOL",
   "WEARY CAT,WHITE FROWNING,WHITE SMILING,WIND BLOWING,WINKING,WOLF,WORRIED=FACE",
   "WEIGHT=LIFTER",
   "WHEEL OF=DHARMA",
   "WHITE CHESS BISHOP ROTATED NINETY=DEGREES",
   "WHITE CHESS BISHOP ROTATED TWO HUNDRED SEVENTY=DEGREES",
   "WHITE CHESS EQUIHOPPER ROTATED NINETY,WHITE CHESS KING ROTATED NINETY=DEGREES",
   "WHITE CHESS KING ROTATED TWO HUNDRED SEVENTY=DEGREES",
   "WHITE CHESS KNIGHT ROTATED FORTY-FIVE,WHITE CHESS KNIGHT ROTATED NINETY=DEGREES",
   "WHITE CHESS KNIGHT ROTATED ONE HUNDRED THIRTY-FIVE=DEGREES",
   "WHITE CHESS KNIGHT ROTATED THREE HUNDRED FIFTEEN=DEGREES",
   "WHITE CHESS KNIGHT ROTATED TWO HUNDRED SEVENTY=DEGREES",
   "WHITE CHESS KNIGHT ROTATED TWO HUNDRED TWENTY-FIVE=DEGREES",
   "WHITE CHESS PAWN ROTATED NINETY=DEGREES",
   "WHITE CHESS PAWN ROTATED TWO HUNDRED SEVENTY=DEGREES",
   "WHITE CHESS QUEEN ROTATED NINETY=DEGREES",
   "WHITE CHESS QUEEN ROTATED TWO HUNDRED SEVENTY=DEGREES",
   "WHITE CHESS ROOK ROTATED NINETY=DEGREES",
   "WHITE CHESS ROOK ROTATED TWO HUNDRED SEVENTY=DEGREES",
   "WHITE CIRCLE CONTAINING BLACK SMALL=CIRCLE",
   "WHITE CIRCLE WITH DOT=RIGHT",
   "WHITE CIRCLE WITH DOWN,WHITE-FEATHERED RIGHTWARDS,WIDE-HEADED DOWNWARDS BARB=ARROW",
   "WHITE CIRCLE WITH LOWER LEFT,WHITE CIRCLE WITH LOWER RIGHT=QUADRANT",
   "WHITE CIRCLE WITH UPPER LEFT,WHITE CIRCLE WITH UPPER RIGHT=QUADRANT",
   "WHITE CONCAVE-SIDED DIAMOND WITH LEFTWARDS=TICK",
   "WHITE CONCAVE-SIDED DIAMOND WITH RIGHTWARDS,WHITE SQUARE WITH LEFTWARDS=TICK",
   "WHITE DIAMOND CONTAINING BLACK SMALL=DIAMOND",
   "WHITE DIAMOND CONTAINING BLACK VERY SMALL=DIAMOND",
   "WHITE DOWN POINTING LEFT HAND,WHITE LEFT POINTING=INDEX",
   "WHITE DOWN POINTING,WHITE DOWN POINTING BACKHAND=INDEX",
   "WHITE DOWN-POINTING SMALL,WHITE LEFT-POINTING SMALL=TRIANGLE",
   "WHITE EXCLAMATION MARK,WHITE QUESTION MARK=ORNAMENT",
   "WHITE FLAG WITH HORIZONTAL MIDDLE BLACK=STRIPE",
   "WHITE HEAVY SALTIRE WITH ROUNDED,WHITE SQUARE WITH ROUNDED=CORNERS",
   "WHITE LEFT POINTING BACKHAND,WHITE RIGHT POINTING=INDEX",
   "WHITE LOZENGE CONTAINING BLACK SMALL=LOZENGE",
   "WHITE MOON=SELENA",
   "WHITE RIGHT POINTING BACKHAND,WHITE UP POINTING,WHITE UP POINTING BACKHAND=INDEX",
   "WHITE RIGHT-POINTING SMALL,WHITE TRIANGLE CONTAINING SMALL WHITE=TRIANGLE",
   "WHITE SESAME,WHITE UP-POINTING TRIANGLE WITH,WORD SEPARATOR MIDDLE=DOT",
   "WHITE SMALL=LOZENGE SQUARE STAR",
   "WHITE SPADE=SUIT",
   "WHITE SQUARE CONTAINING BLACK MEDIUM,WHITE SQUARE CONTAINING BLACK SMALL=SQUARE",
   "WHITE SQUARE CONTAINING BLACK VERY SMALL,WHITE VERY SMALL=SQUARE",
   "WHITE SQUARE WITH CENTRE VERTICAL,WHITE SQUARE WITH VERTICAL BISECTING=LINE",
   "WHITE SQUARE WITH LOWER LEFT,WHITE SQUARE WITH LOWER RIGHT=QUADRANT",
   "WHITE SQUARE WITH RIGHTWARDS=TICK",
   "WHITE SQUARE WITH UPPER LEFT,WHITE SQUARE WITH UPPER RIGHT=QUADRANT",
   "WHITE UP-POINTING SMALL=TRIANGLE",
   "WHITE UP-POINTING=CHEVRON TRIANGLE",
   "WHITE VERTICAL=BAR ELLIPSE RECTANGLE",
   "WHITE=BULLET CIRCLE DIAMOND FLAG FLORETTE FLOWER HEART HEXAGON HOURGLASS NIB PARALLELOGRAM",
   "WHITE=PENNANT PENTAGON RECTANGLE SCISSORS SQUARE STAR SUN TELEPHONE TRAPEZIUM",
   "WIDE-HEADED DOWNWARDS HEAVY BARB,WIDE-HEADED DOWNWARDS LIGHT BARB=ARROW",
   "WIDE-HEADED DOWNWARDS MEDIUM BARB,WIDE-HEADED DOWNWARDS VERY HEAVY BARB=ARROW",
   "WIDE-HEADED LEFTWARDS BARB,WIDE-HEADED LEFTWARDS HEAVY BARB=ARROW",
   "WIDE-HEADED LEFTWARDS LIGHT BARB,WIDE-HEADED LEFTWARDS MEDIUM BARB=ARROW",
   "WIDE-HEADED LEFTWARDS VERY HEAVY BARB,WIDE-HEADED NORTH EAST BARB=ARROW",
   "WIDE-HEADED NORTH EAST HEAVY BARB,WIDE-HEADED NORTH EAST LIGHT BARB=ARROW",
   "WIDE-HEADED NORTH EAST MEDIUM BARB,WIDE-HEADED NORTH EAST VERY HEAVY BARB=ARROW",
   "WIDE-HEADED NORTH WEST BARB,WIDE-HEADED NORTH WEST HEAVY BARB=ARROW",
   "WIDE-HEADED NORTH WEST LIGHT BARB,WIDE-HEADED NORTH WEST MEDIUM BARB=ARROW",
   "WIDE-HEADED NORTH WEST VERY HEAVY BARB,WIDE-HEADED RIGHTWARDS BARB=ARROW",
   "WIDE-HEADED RIGHTWARDS HEAVY BARB,WIDE-HEADED RIGHTWARDS LIGHT BARB=ARROW",
   "WIDE-HEADED RIGHTWARDS MEDIUM BARB,WIDE-HEADED RIGHTWARDS VERY HEAVY BARB=ARROW",
   "WIDE-HEADED SOUTH EAST BARB,WIDE-HEADED SOUTH EAST HEAVY BARB=ARROW",
   "WIDE-HEADED SOUTH EAST LIGHT BARB,WIDE-HEADED SOUTH EAST MEDIUM BARB=ARROW",
   "WIDE-HEADED SOUTH EAST VERY HEAVY BARB,WIDE-HEADED SOUTH WEST BARB=ARROW",
   "WIDE-HEADED SOUTH WEST HEAVY BARB,WIDE-HEADED SOUTH WEST LIGHT BARB=ARROW",
   "WIDE-HEADED SOUTH WEST MEDIUM BARB,WIDE-HEADED SOUTH WEST VERY HEAVY BARB=ARROW",
   "WIDE-HEADED UPWARDS BARB,WIDE-HEADED UPWARDS HEAVY BARB=ARROW",
   "WIDE-HEADED UPWARDS LIGHT BARB,WIDE-HEADED UPWARDS MEDIUM BARB=ARROW",
   "WIDE-HEADED UPWARDS VERY HEAVY BARB=ARROW",
   "WIGGLY VERTICAL=LINE",
   "WILTED=FLOWER",
   "WIND=CHIME",
   "WIRED=KEYBOARD",
   "WOMAN WITH BUNNY=EARS",
   "WOMANS=BOOTS CLOTHES HAT SANDAL",
   "WORLD=MAP",
   "WRAPPED=PRESENT",
   "X IN A RECTANGLE=BOX",
   "XIANGQI BLACK,XIANGQI RED=CANNON CHARIOT ELEPHANT GENERAL HORSE MANDARIN SOLDIER",
   "YAWNING,ZEBRA,ZIPPER-MOUTH=FACE",
   "YEZIDI COMBINING HAMZA,YEZIDI COMBINING MADDA,YEZIDI HYPHENATION=MARK",
   "YEZIDI LETTER YOT WITH CIRCUMFLEX=ABOVE",
   "YEZIDI LETTER=BE CHHIM CHIM CIM DAD DAL ELIF ET EW EYN FA GAF HAY HHA JA KAF KHAF LAM MIM",
   "YEZIDI LETTER=NUN OW PE PHE QAF RA RHA SAD SE SHIN SIN TA THE UM VA WAW XA XHEYN YOT ZA ZAL",
   "YEZIDI LETTER=ZE",
   "YI RADICAL=BBUT BUR CHE CIP CUOP CY CYP CYT DDUR DU GA GEP GGOP GGUO GOT HMO HXIT HXOP HXUO",
   "YI RADICAL=JJIE JJUT JJY JO KE KIT LI LIE LYR MI MOP NBIE NYIP NYOP NZUP OP PUT PYT QOT SHAT",
   "YI RADICAL=SHOP SHUR SHY SSI TAT TU VEP VUR WO YIT YO ZA ZOT ZUP ZUR ZZIET",
   "YI SYLLABLE ITERATION,ZANABAZAR SQUARE CLOSING DOUBLE-LINED HEAD=MARK",
   "YI SYLLABLE=A AP AT AX BA BAP BAT BAX BBA BBAP BBAT BBAX BBE BBEP BBEX BBI BBIE BBIEP BBIET",
   "YI SYLLABLE=BBIEX BBIP BBIT BBIX BBO BBOP BBOT BBOX BBU BBUO BBUOP BBUOX BBUP BBUR BBURX",
   "YI SYLLABLE=BBUT BBUX BBY BBYP BBYT BBYX BE BEP BEX BI BIE BIEP BIET BIEX BIP BIT BIX BO BOP",
   "YI SYLLABLE=BOT BOX BU BUO BUOP BUOX BUP BUR BURX BUT BUX BY BYP BYR BYRX BYT BYX CA CAP CAT",
   "YI SYLLABLE=CAX CE CEP CEX CHA CHAP CHAT CHAX CHE CHEP CHET CHEX CHO CHOP CHOT CHOX CHU CHUO",
   "YI SYLLABLE=CHUOP CHUOT CHUOX CHUP CHUR CHURX CHUX CHY CHYP CHYR CHYRX CHYT CHYX CI CIE CIEP",
   "YI SYLLABLE=CIET CIEX CIP CIT CIX CO COP COT COX CU CUO CUOP CUOX CUP CUR CURX CUT CUX CY",
   "YI SYLLABLE=CYP CYR CYRX CYT CYX DA DAP DAT DAX DDA DDAP DDAT DDAX DDE DDEP DDEX DDI DDIE",
   "YI SYLLABLE=DDIEP DDIEX DDIP DDIT DDIX DDO DDOP DDOT DDOX DDU DDUO DDUOP DDUOX DDUP DDUR",
   "YI SYLLABLE=DDURX DDUT DDUX DE DEP DEX DI DIE DIEP DIEX DIP DIT DIX DO DOP DOT DOX DU DUO",
   "YI SYLLABLE=DUOX DUP DUR DURX DUT DUX E EX FA FAP FAT FAX FI FIP FIT FIX FO FOP FOX FU FUP",
   "YI SYLLABLE=FUR FURX FUT FUX FY FYP FYT FYX GA GAP GAT GAX GE GEP GET GEX GGA GGAP GGAT GGAX",
   "YI SYLLABLE=GGE GGEP GGET GGEX GGI GGIE GGIEP GGIEX GGIT GGIX GGO GGOP GGOT GGOX GGU GGUO",
   "YI SYLLABLE=GGUOP GGUOT GGUOX GGUP GGUR GGURX GGUT GGUX GI GIE GIEP GIET GIEX GIP GIT GIX GO",
   "YI SYLLABLE=GOP GOT GOX GU GUO GUOP GUOT GUOX GUP GUR GURX GUT GUX HA HAP HAT HAX HE HEP HEX",
   "YI SYLLABLE=HIE HIEX HIT HLA HLAP HLAT HLAX HLE HLEP HLEX HLI HLIE HLIEP HLIEX HLIP HLIT",
   "YI SYLLABLE=HLIX HLO HLOP HLOX HLU HLUO HLUOP HLUOX HLUP HLUR HLURX HLUT HLUX HLY HLYP HLYR",
   "YI SYLLABLE=HLYRX HLYT HLYX HMA HMAP HMAT HMAX HMI HMIE HMIEP HMIEX HMIP HMIT HMIX HMO HMOP",
   "YI SYLLABLE=HMOT HMOX HMU HMUO HMUOP HMUOX HMUP HMUR HMURX HMUT HMUX HMY HMYP HMYR HMYRX",
   "YI SYLLABLE=HMYX HNA HNAP HNAT HNAX HNE HNEP HNEX HNI HNIE HNIEP HNIET HNIEX HNIP HNIT HNIX",
   "YI SYLLABLE=HNOP HNOT HNOX HNUO HNUOX HNUT HO HOP HOT HOX HUO HUOP HUOT HUOX HXA HXAP HXAT",
   "YI SYLLABLE=HXAX HXE HXEP HXEX HXI HXIE HXIEP HXIET HXIEX HXIP HXIT HXIX HXO HXOP HXOT HXOX",
   "YI SYLLABLE=HXUO HXUOP HXUOT HXUOX I IE IEP IET IEX IP IT IX JI JIE JIEP JIET JIEX JIP JIT",
   "YI SYLLABLE=JIX JJI JJIE JJIEP JJIET JJIEX JJIP JJIT JJIX JJO JJOP JJOT JJOX JJU JJUO JJUOP",
   "YI SYLLABLE=JJUOX JJUP JJUR JJURX JJUT JJUX JJY JJYP JJYT JJYX JO JOP JOT JOX JU JUO JUOP",
   "YI SYLLABLE=JUOT JUOX JUP JUR JURX JUT JUX JY JYP JYR JYRX JYT JYX KA KAP KAT KAX KE KEP KET",
   "YI SYLLABLE=KEX KI KIE KIEP KIEX KIP KIT KIX KO KOP KOT KOX KU KUO KUOP KUOX KUP KUR KURX",
   "YI SYLLABLE=KUT KUX LA LAP LAT LAX LE LEP LEX LI LIE LIEP LIET LIEX LIP LIT LIX LO LOP LOT",
   "YI SYLLABLE=LOX LU LUO LUOP LUOT LUOX LUP LUR LURX LUT LUX LY LYP LYR LYRX LYT LYX MA MAP",
   "YI SYLLABLE=MAT MAX ME MEX MGA MGAP MGAT MGAX MGE MGEP MGEX MGIE MGIEX MGO MGOP MGOT MGOX",
   "YI SYLLABLE=MGU MGUO MGUOP MGUOX MGUP MGUR MGURX MGUT MGUX MI MIE MIEP MIEX MIP MIT MIX MO",
   "YI SYLLABLE=MOP MOT MOX MU MUO MUOP MUOT MUOX MUP MUR MURX MUT MUX MY MYP MYT MYX NA NAP NAX",
   "YI SYLLABLE=NBA NBAP NBAT NBAX NBI NBIE NBIEP NBIEX NBIP NBIT NBIX NBO NBOP NBOT NBOX NBU",
   "YI SYLLABLE=NBUP NBUR NBURX NBUT NBUX NBY NBYP NBYR NBYRX NBYT NBYX NDA NDAP NDAT NDAX NDE",
   "YI SYLLABLE=NDEP NDEX NDI NDIE NDIEX NDIP NDIT NDIX NDO NDOP NDOT NDOX NDU NDUP NDUR NDURX",
   "YI SYLLABLE=NDUT NDUX NE NEP NEX NGA NGAP NGAT NGAX NGE NGEP NGEX NGIE NGIEP NGIEX NGO NGOP",
   "YI SYLLABLE=NGOT NGOX NGUO NGUOT NGUOX NI NIE NIEP NIEX NIP NIT NIX NJI NJIE NJIEP NJIET",
   "YI SYLLABLE=NJIEX NJIP NJIT NJIX NJO NJOP NJOT NJOX NJU NJUO NJUOX NJUP NJUR NJURX NJUX NJY",
   "YI SYLLABLE=NJYP NJYR NJYRX NJYT NJYX NO NOP NOT NOX NRA NRAP NRAT NRAX NRE NREP NRET NREX",
   "YI SYLLABLE=NRO NROP NROX NRU NRUP NRUR NRURX NRUT NRUX NRY NRYP NRYR NRYRX NRYT NRYX NU NUO",
   "YI SYLLABLE=NUOP NUOX NUP NUR NURX NUT NUX NYI NYIE NYIEP NYIET NYIEX NYIP NYIT NYIX NYO",
   "YI SYLLABLE=NYOP NYOT NYOX NYU NYUO NYUOP NYUOX NYUP NYUT NYUX NZA NZAP NZAT NZAX NZE NZEX",
   "YI SYLLABLE=NZI NZIE NZIEP NZIEX NZIP NZIT NZIX NZOP NZOX NZU NZUO NZUOX NZUP NZUR NZURX",
   "YI SYLLABLE=NZUX NZY NZYP NZYR NZYRX NZYT NZYX O OP OT OX PA PAP PAT PAX PI PIE PIEP PIEX",
   "YI SYLLABLE=PIP PIT PIX PO POP POT POX PU PUO PUOP PUOX PUP PUR PURX PUT PUX PY PYP PYR PYRX",
   "YI SYLLABLE=PYT PYX QI QIE QIEP QIET QIEX QIP QIT QIX QO QOP QOT QOX QU QUO QUOP QUOT QUOX",
   "YI SYLLABLE=QUP QUR QURX QUT QUX QY QYP QYR QYRX QYT QYX RA RAP RAT RAX RE REP REX RO ROP",
   "YI SYLLABLE=ROT ROX RRA RRAX RRE RREP RRET RREX RRO RROP RROT RROX RRU RRUO RRUOX RRUP RRUR",
   "YI SYLLABLE=RRURX RRUT RRUX RRY RRYP RRYR RRYRX RRYT RRYX RU RUO RUOP RUOX RUP RUR RURX RUT",
   "YI SYLLABLE=RUX RY RYP RYR RYRX RYT RYX SA SAP SAT SAX SE SEP SEX SHA SHAP SHAT SHAX SHE",
   "YI SYLLABLE=SHEP SHET SHEX SHO SHOP SHOT SHOX SHU SHUO SHUOP SHUOX SHUP SHUR SHURX SHUT SHUX",
   "YI SYLLABLE=SHY SHYP SHYR SHYRX SHYT SHYX SI SIE SIEP SIEX SIP SIT SIX SO SOP SOT SOX SSA",
   "YI SYLLABLE=SSAP SSAT SSAX SSE SSEP SSEX SSI SSIE SSIEP SSIEX SSIP SSIT SSIX SSO SSOP SSOT",
   "YI SYLLABLE=SSOX SSU SSUP SSUT SSUX SSY SSYP SSYR SSYRX SSYT SSYX SU SUO SUOP SUOX SUP SUR",
   "YI SYLLABLE=SURX SUT SUX SY SYP SYR SYRX SYT SYX TA TAP TAT TAX TE TEP TEX TI TIE TIEP TIEX",
   "YI SYLLABLE=TIP TIT TIX TO TOP TOT TOX TU TUO TUOP TUOT TUOX TUP TUR TURX TUT TUX UO UOP UOX",
   "YI SYLLABLE=VA VAP VAT VAX VEP VEX VI VIE VIEP VIET VIEX VIP VIT VIX VO VOP VOT VOX VU VUP",
   "YI SYLLABLE=VUR VURX VUT VUX VY VYP VYR VYRX VYT VYX WA WAP WAT WAX WE WEP WEX WO WOP WOX WU",
   "YI SYLLABLE=WUO WUOP WUOX XI XIE XIEP XIET XIEX XIP XIT XIX XO XOP XOT XOX XUO XUOX XY XYP",
   "YI SYLLABLE=XYR XYRX XYT XYX YI YIE YIEP YIET YIEX YIP YIT YIX YO YOP YOT YOX YU YUO YUOP",
   "YI SYLLABLE=YUOT YUOX YUP YUR YURX YUT YUX YY YYP YYR YYRX YYT YYX ZA ZAP ZAT ZAX ZE ZEP ZEX",
   "YI SYLLABLE=ZHA ZHAP ZHAT ZHAX ZHE ZHEP ZHET ZHEX ZHO ZHOP ZHOT ZHOX ZHU ZHUO ZHUOP ZHUOX",
   "YI SYLLABLE=ZHUP ZHUR ZHURX ZHUT ZHUX ZHY ZHYP ZHYR ZHYRX ZHYT ZHYX ZI ZIE ZIEP ZIEX ZIP ZIT",
   "YI SYLLABLE=ZIX ZO ZOP ZOT ZOX ZU ZUO ZUOP ZUOX ZUP ZUR ZURX ZUT ZUX ZY ZYP ZYR ZYRX ZYT ZYX",
   "YI SYLLABLE=ZZA ZZAP ZZAT ZZAX ZZE ZZEP ZZEX ZZI ZZIE ZZIEP ZZIET ZZIEX ZZIP ZZIT ZZIX ZZO",
   "YI SYLLABLE=ZZOP ZZOX ZZU ZZUP ZZUR ZZURX ZZUX ZZY ZZYP ZZYR ZZYRX ZZYT ZZYX",
   "YIN=YANG",
   "Z NOTATION BAG=MEMBERSHIP",
   "Z NOTATION DOMAIN,Z NOTATION RANGE=ANTIRESTRICTION",
   "Z NOTATION RELATIONAL=COMPOSITION",
   "Z NOTATION RIGHT BINDING,Z NOTATION RIGHT IMAGE=BRACKET",
   "Z NOTATION SCHEMA=COMPOSITION PIPING PROJECTION",
   "Z NOTATION=SPOT",
   "ZANABAZAR SQUARE CLOSING HEAD,ZANABAZAR SQUARE FINAL CONSONANT=MARK",
   "ZANABAZAR SQUARE CLUSTER-FINAL LETTER=LA RA VA YA",
   "ZANABAZAR SQUARE CLUSTER-INITIAL LETTER=RA",
   "ZANABAZAR SQUARE INITIAL DOUBLE-LINED HEAD,ZANABAZAR SQUARE INITIAL HEAD=MARK",
   "ZANABAZAR SQUARE LETTER=-A A BA BHA CA CHA DA DDA DDHA DHA DZA DZHA GA GHA HA JA KA KHA KSSA",
   "ZANABAZAR SQUARE LETTER=LA MA NA NGA NNA NYA PA PHA RA SA SHA SSA TA THA TSA TSHA TTA TTHA",
   "ZANABAZAR SQUARE LETTER=VA YA ZA ZHA",
   "ZANABAZAR SQUARE SIGN CANDRA WITH,ZANABAZAR SQUARE SIGN CANDRABINDU WITH=ORNAMENT",
   "ZANABAZAR SQUARE VOWEL LENGTH=MARK",
   "ZERO WIDTH=JOINER NON-JOINER SPACE",
   "ZNAMENNY COMBINING ATTACHING VERTICAL,ZNAMENNY COMBINING MARK CURVED=OMET",
   "ZNAMENNY COMBINING LOWER TONAL RANGE=INDICATOR",
   "ZNAMENNY COMBINING MARK CHASHKA=POLNAYA",
   "ZNAMENNY COMBINING MARK DEMESTVENNY=ZADERZHKA",
   "ZNAMENNY COMBINING MARK GORAZDO NIZKO S KRYZHEM ON=LEFT RIGHT",
   "ZNAMENNY COMBINING MARK GORAZDO=VYSOKO",
   "ZNAMENNY COMBINING MARK MALO POVYSHE ON=LEFT RIGHT",
   "ZNAMENNY COMBINING MARK MALO POVYSHE S KHOKHLOM ON=LEFT RIGHT",
   "ZNAMENNY COMBINING MARK MALO POVYSHE S,ZNAMENNY COMBINING MARK POVYSHE S=KRYZHEM",
   "ZNAMENNY COMBINING MARK MALO POVYSHE,ZNAMENNY COMBINING MARK POVYSHE=STRANNO",
   "ZNAMENNY COMBINING MARK NIZKO ON,ZNAMENNY COMBINING MARK NIZKO S KRYZHEM ON=LEFT RIGHT",
   "ZNAMENNY COMBINING MARK PODCHASHIE WITH VERTICAL=STROKE",
   "ZNAMENNY COMBINING MARK POVYSHE ON=LEFT RIGHT",
   "ZNAMENNY COMBINING MARK POVYSHE S KHOKHLOM ON=LEFT RIGHT",
   "ZNAMENNY COMBINING MARK SOROCHYA,ZNAMENNY NEUME STOPITSA WITH SOROCHYA=NOZHKA",
   "ZNAMENNY COMBINING MARK SREDNE ON,ZNAMENNY COMBINING MARK TSATA ON=LEFT RIGHT",
   "ZNAMENNY COMBINING MARK STRANNO MALO=POVYSHE",
   "ZNAMENNY COMBINING MARK TSATA S,ZNAMENNY COMBINING MARK VYSOKO S=KRYZHEM",
   "ZNAMENNY COMBINING MARK VYSOKO ON,ZNAMENNY COMBINING MARK VYSOKO S KHOKHLOM ON=LEFT RIGHT",
   "ZNAMENNY COMBINING MARK=BORZAYA CHASHKA DVOETOCHIE KACHKA KRYZH KUPNAYA LOMKA OBLACHKO ON",
   "ZNAMENNY COMBINING MARK=OTSECHKA PODCHASHIE PODVERTKA RAVNO RAZSEKA SKOBA TIKHAYA TOCHKA",
   "ZNAMENNY COMBINING MARK=UDARKA ZADERZHKA ZELO ZEVOK",
   "ZNAMENNY COMBINING TONAL RANGE MARK=MRACHNO SVETLO TRESVETLO",
   "ZNAMENNY NEUME DEMESTVENNY=KLYUCH",
   "ZNAMENNY NEUME DOUBLE,ZNAMENNY NEUME STRELA GROMNAYA WITH SINGLE=ZAPYATAYA",
   "ZNAMENNY NEUME DVA V=CHELNU",
   "ZNAMENNY NEUME GOLUBCHIK=BORZY MRACHNY SVETLY TIKHY TRESVETLY",
   "ZNAMENNY NEUME KRYUK=TIKHY",
   "ZNAMENNY NEUME MECHIK=KLYUCHENEPOSTOYANNY KLYUCHEPOVODNY KLYUCHEVOY POVODNY",
   "ZNAMENNY NEUME OSOKA KLYUCHEVAYA=NEPOSTOYANNAYA SVETLAYA",
   "ZNAMENNY NEUME OSOKA KRYUKOVAYA=SVETLAYA",
   "ZNAMENNY NEUME OSOKA=SVETLAYA TRESVETLAYA",
   "ZNAMENNY NEUME PEREVODKA=NEPOSTOYANNAYA",
   "ZNAMENNY NEUME REVERSED=CHELYUSTKA",
   "ZNAMENNY NEUME SKAMEYTSA DVOECHELNAYA=KLYUCHEVAYA NEPOSTOYANNAYA PROSTAYA SVETLAYA",
   "ZNAMENNY NEUME SKAMEYTSA KLYUCHEVAYA=SVETLAYA TIKHAYA",
   "ZNAMENNY NEUME SKAMEYTSA=KLYUCHENEPOSTOYANNAYA MRACHNAYA SVETLAYA TIKHAYA TRESVETLAYA",
   "ZNAMENNY NEUME SLOZHITIE S=KRYZHEM ZAPYATOY",
   "ZNAMENNY NEUME SLOZHITIE=ZAKRYTOE",
   "ZNAMENNY NEUME STATYA S DVUMYA=ZAPYATYMI",
   "ZNAMENNY NEUME STATYA S KRYZHEM I,ZNAMENNY NEUME STATYA ZAKRYTAYA S=ZAPYATOY",
   "ZNAMENNY NEUME STATYA S ZAPYATOY I=KRYZHEM PODCHASHIEM",
   "ZNAMENNY NEUME STATYA S=KRYZHEM ROGOM ZAPYATOY",
   "ZNAMENNY NEUME STATYA=NEPOSTOYANNAYA ZAKRYTAYA",
   "ZNAMENNY NEUME STOPITSA S=OCHKOM",
   "ZNAMENNY NEUME STRELA DVOECHELNAYA=KLYUCHEVAYA",
   "ZNAMENNY NEUME STRELA DVOECHELNOPOVODNAYA=KLYUCHEVAYA",
   "ZNAMENNY NEUME STRELA GROMOKRYZHEVAYA=POVODNAYA",
   "ZNAMENNY NEUME STRELA GROMOPOVODNAYA WITH DOUBLE=ZAPYATAYA",
   "ZNAMENNY NEUME STRELA GROMOPOVODNAYA WITH SINGLE=ZAPYATAYA",
   "ZNAMENNY NEUME STRELA KRYUKOVAYA GROMNAYA WITH SINGLE=ZAPYATAYA",
   "ZNAMENNY NEUME STRELA KRYUKOVAYA GROMOKRYZHEVAYA=POVODNAYA",
   "ZNAMENNY NEUME STRELA KRYUKOVAYA GROMOPOVODNAYA WITH DOUBLE=ZAPYATAYA",
   "ZNAMENNY NEUME STRELA KRYUKOVAYA GROMOPOVODNAYA WITH SINGLE=ZAPYATAYA",
   "ZNAMENNY NEUME STRELA KRYUKOVAYA=GROMNAYA GROMOKRYZHEVAYA GROMOPOVODNAYA POVODNAYA TRYASKA",
   "ZNAMENNY NEUME STRELA TIKHAYA=PUTNAYA",
   "ZNAMENNY NEUME STRELA=DVOECHELNAYA DVOECHELNOKRYZHEVAYA DVOECHELNOPOVODNAYA GROMNAYA",
   "ZNAMENNY NEUME STRELA=GROMOKRYZHEVAYA GROMOPOVODNAYA KLYUCHENEPOSTOYANNAYA KLYUCHEPOVODNAYA",
   "ZNAMENNY NEUME STRELA=KRYUKOVAYA KRYZHEVAYA MRACHNOTIKHAYA NEPOSTOYANNAYA POLUPOVODNAYA",
   "ZNAMENNY NEUME STRELA=POVODNAYA PROSTAYA TRYASOGLASNAYA TRYASOPOVODNAYA TRYASOSTRELNAYA",
   "ZNAMENNY NEUME VRAKHIYA,ZNAMENNY NEUME VRAKHIYA KLYUCHEVAYA=MRACHNAYA PROSTAYA SVETLAYA",
   "ZNAMENNY NEUME VRAKHIYA,ZNAMENNY NEUME VRAKHIYA KLYUCHEVAYA=TRESVETLAYA",
   "ZNAMENNY NEUME=CHASHKA CHELYUSTKA DERBITSA DUDA FITA KHAMILO KLYUCH KOBYLA KRYUK KRYZH",
   "ZNAMENNY NEUME=KUFISMA MECHIK NEMKA OBLAKO OSOKA PALKA PARAKLIT PAUK PEREVODKA PODCHASHIE",
   "ZNAMENNY NEUME=POLKULIZMY ROG SLOZHITIE STATYA STOPITSA ZANOZHEK ZAPYATAYA ZMEYTSA",
   "ZNAMENNY PRIZNAK MODIFIER DIRECTION=FLIP",
   "ZNAMENNY PRIZNAK MODIFIER=KRYZH LEVEL-2 LEVEL-3 ROG"]

def nameRows : List (List String) :=
  [oneWordRows, rowsFromA, rowsFromB, rowsFromC, rowsFromE, rowsFromL, rowsFromM, rowsFromR, rowsFromU]

end GosuForge.Text
