import Automation.Text.Front
import Automation.Text.Normal

/-!
# Names of characters

The names that Unicode 14 gives to characters, with the further names that it allows for some.
Hangul syllables are named after their letters, and ideographs after their codes; all other names
stand in a table. `codeNamed?` finds the character of a name.
-/

namespace Automation.Text

/-- The words that stand in the table as two small letters, by their numbers. -/
def frequentWordRows : List String := [
    "LETTER WITH CAPITAL SMALL ARROW FORM ISOLATED RIGHTWARDS RIGHT ABOVE SIGN DOUBLE LEFTWARDS",
    "VERTICAL TRIANGLE-HEADED INITIAL BELOW FINAL HORIZONTAL STROKE SYMBOL LEFT THREE BLACK",
    "DOWNWARDS HUNDRED THOUSAND MIDDLE WHITE BRACKET CIRCUMFLEX WEST-CREE TRIANGLE AND MARK",
    "GREATER-THAN DIAERESIS HEAVY ARROWHEAD SQUARE CIRCLE UPWARDS REVERSED TIMES EIGHT FOUR SEVEN",
    "HOOK LESS-THAN YPOGEGRAMMENI FIVE PERISPOMENI POINTING INVERTED PUNCTUATION MEDIUM",
    "PARENTHESIS MEDIAL TURNED PROSGEGRAMMENI INDEX TWO EQUAL MAKSURA VOWEL LIGHT ORNAMENT ROTATED",
    "TILDE ONE DIGIT LOWER MEEM ANUSVARA SINGLE DOT VOCALIC PLUS RETROFLEX ACUTE RIGHT-POINTING",
    "HALF DOWN HARPOON DESCENDER CANDRABINDU ASTERISK NINE COMBINING CIRCLED DIAGONAL DEGREES",
    "OPERATOR MACRON UPPER NUMBER FACE THUMB DOTS OVER DASIA PSILI EXCLAMATION LITTLE CENTRE ALEF",
    "SEPARATOR LARGE LEFT-POINTING GRAVE EQUILATERAL QUOTATION RING HAND-FIST DIAMOND LIGATURE",
    "BARB MOVEMENT-FLOORPLANE ANTICLOCKWISE VARIA TRIPLE CROSSING COMMA ZERO BLOCK SANS-SERIF",
    "MOVEMENT-WALLPLANE VISARGA MODIFIER SQUARED POINTED ABBREVIATION TRIANGULAR QUESTION BREVE",
    "TONE OPEN SEVENTY JEEM LONG VIRAMA TWENTY QUARTER INTERSECTION LATIN ANGLE CONSONANT",
    "ALTERNATE SHORT ALTERNATING SIX HIGH ACCENT HITTING NINETY LINE DOTTED STOP BAR UNDERBAR",
    "HAND-HINGE HAND-CIRCLE NORTH PALATAL CEDILLA C-SIMPLIFIED SUPERSET STRAIGHT EQUALS CLOSED",
    "YENISEI UPSILON GLOTTAL DIGRAPH CROSS CARON SOUTH IDEOGRAPHIC CONJOINED EPSILON EAST CORNER",
    "BOTTOM OXIA DOWN-POINTING MULTIPLICATION YEH UP-POINTING STAR SOLIDUS SECTION FINGERS ORKHON",
    "EQUIVALENT OMEGA OVERLAY DOUBLE-STRUCK TAIL SUPERSCRIPT KNIGHT INTEGRAL FRACTION ARCHAION",
    "WEST KHAH VARIANT SLANTED REVERSE NEUTRAL HAMZA CHARACTER GUNU EIGHTH TORTOISE FULL SUBSET",
    "RAISED SYLLABLE FIFTY COPTIC ALPHA LOW COLON CHESS SCRIPT DIALYTIKA NEGATIVE IOTIFIED HAH",
    "AVAGRAHA ARCHAIC ARABIC-INDIC TABULATION HAND-ANGLE DAGESH CRYPTOGRAMMIC DANDA OMICRON",
    "INSULAR FORWARD THIRTY QUARTERS QUADRANT HEART CLOCKWISE TTHA TENU DASH TEN MAHAAPRAANA",
    "TWO-HEADED SMILING SIMALUNGUN CROSSED-TAIL BETWEEN TEARDROP-SPOKED DIAMONDS DDHA CYRILLIC",
    "TELEPHONE SEMICOLON NOON SIGMA CURLY NGA SHA THETA SUCCEEDS SHADOWED PRECEDES NUKTA MULTIPLE",
    "INSIDE GREEK ARABIC ALPAPRAANA QUADRUPLE OBLIQUE EIGHTHS SHELL SPOKED ROTATION-FLOORPLANE",
    "TACK NOTEHEAD HORN CHA THROUGH NYA DOTLESS ROTATION-WALLPLANE LENTICULAR KHA HEARTS",
    "CHARACTERS APOSTROPHE SPACE SHAFT LEFT-STEM ITERATION INDEPENDENT GAMMA THA SAMEKH PRODUCT",
    "PERSON OVERBAR MUSICAL MOUTH LOZENGE LOGICAL KATAKANA-HIRAGANA KATAKANA IOTA HINGED HAND FROM",
    "CROSSED CIRCLES ARROWS ALMOST NOT SHIN BENT DELTA OGONEK LENGTH LAMEDH EIGHTY COMPRESSED",
    "CANDRA BOLD POVYSHE KRYZHEM VERY TWELFTHS TONOS SHEEN PHA KLYUCHEVAYA OLD TWELVE SPADES SEEN",
    "BULLET MINUS KAPPA FORTY CURVE SUBSTITUTION SIDE SALTIRE MOON MATHEMATICAL FIFTEEN",
    "DIFFERENTIAL CARRIER ZAPYATAYA TURNSTILE TTA THOUSANDS SEVENTEEN MAHAPRANA INDICATOR",
    "EXTENSION DIALECT-P CRESCENTS AMPERSAND ABKHASIAN VERTICALLY UNION SPREAD SOUND SIXTY",
    "SIDEWAYS RISING PINWHEEL NEPOSTOYANNAYA GHAIN GHA ENVELOPE EIGHTEEN DDA DASHED CONTAINING",
    "ALEPH DHA NUN UPADHMANIYA SVARITA SLASH SIXTEEN SINGLE-LINE ROUNDED QUEEN NUMERAL NASKAPI",
    "JIHVAMULIYA INVERSE INFORMATION GIMEL ELEMENT DOUBLE-LINE Y-CREE TEDUNG OCLOCK NNA",
    "LEFT-TO-RIGHT KASKAL HYPHEN ELEVEN DISH BISHOP ASH APPROXIMATELY BHA WAVE THIRTEEN SVETLAYA",
    "SUBSCRIPT SUBGROUP SHADE SADHE RECTANGLE PARALLEL OVERLINE OPPOSING NOTATION NINETEEN",
    "MOVEMENT MOUNTAIN LEAF FOURTEEN EXTENDED ELLIPSIS DODEKATA DIVISION CURL CONTAINS BACKSLASH",
    "BACKHAND TOP SSA NOTCHED LARGEST ITALIC EYES EQUIHOPPER CURVED CONTROL CEILING BLACK-LETTER",
    "BAMBOOS ZAYIN LAMDA EARTH CLUBS NOTE FOR WAW THE WRINKLED WATER VOICED TONE-5 TONE-2 THIRD",
    "RIGHT-SHADOWED POINT PLASTICS OUTLINED NORMAL MILLIONS LUNATE LAM KASRA JAPANESE INTERROBANG",
    "ICHOS HEAD HANGUL HAND-CUP GROMOPOVODNAYA FISHHOOK END DALETH CENTRALIZATION BETA BESIDE",
    "BARRED AIRPLANE THIEUTH SUBUNIT SUBJOINED STATERS SIXTEENTH SHESHIG PHIEUPH PARTIAL KHIEUKH",
    "JHA HAND-HOOK EXTREMELY CHIEUCH CENTRED REST LOOP KING GAN2 WRIST SHE RTAGS ROUND",
    "RIGHT-TO-LEFT PRIME PARENTHESIZED LAGAB HAND-CURLICUE FATHA EGYPTOLOGICAL CHECK TONE-3 THIRDS",
    "SEMIDIRECT SEMICIRCLE SAYISI NUBIAN GEMINATION FILLER COMMERCIAL BUBBLE BETH AIN ZAPYATOY",
    "TSHEG TRANSMISSION THESPIAN TALENTS TAK4 SIMILAR SIDDHAM SHAD SCISSORS RIGHT-FACING",
    "RIEUL-KIYEOK REH PRESENTATION PIEUP-SIOS-TIKEUT MURDA MONOGRAM MIDDLE-WELSH KOMI KHOKHLOM",
    "KAPH J-SIMPLIFIED INFINITY HYPHEN-MINUS HIRAGANA GISH FATHATAN FALLING EYEGAZE-WALLPLANE",
    "CRESCENT CLICK CANCELLATION ATTACHED ANTIMONY TSA KAF ZIGZAG ZAIN YUS YODH WORD VARIATION",
    "TSHA TIKEUT SUBLIMATE SECANT PARAGRAPH PAIRED MARKER LONSUM KOET KIYEOK KENTIMATA HETH HEH",
    "HAND-OVAL FINGER DRAGON TWENTY-FIVE TRESVETLAYA TAH SSANGTIKEUT SSANGKIYEOK SHAR2 SCHWA",
    "RIEUL-PIEUP RIEUL-MIEUM RIEUL-HIEUH NIEUN-HIEUH NIEUN-CIEUC LLA LEFT-FACING FLOOR FINGER-POST",
    "EKFONITIKON DAMMA CARET BIRGA APPROXIMATE ACKNOWLEDGE SOFT RHO QUAD NEO KAPYEOUNPHIEUPH GAR",
    "FILL BOX VOLAPUK QAF MEASURE IZHITSA IOTATED IGI HOLDING DIVIDER DIGAMMA CORNERS CONTACT",
    "BARLINE ZETA WITHIN UNDER UMBRELLA U-SHAPED TUAREG TONGUE TONE-4 SSANGPIEUP SSANGCIEUC SPEECH",
    "SIXTEENTHS SIMPLIFIED SILHOUETTE SEQUENTIAL SECOND RIEUL-SIOS RESH POWERS PIEUP-SIOS PHI",
    "PENTAGON ORIGINAL ONCOMING NIKOLSBURG MEASURED MADDA LOGOGRAM LENGTHENER KEYBOARD KASRATAN",
    "KAREN JOINER IMAGE IEUNG IDEOGRAM HORSE HANDS GESH2 GEORGIAN FOLDER FLOURISH FIRST EXTRA-HIGH"
  ]

/-- The names of the characters in the order of their codes, then further names. The code stands in
front of a name unless it is the next one. A hexadecimal digit tells how many words of the name
before come first. -/
def nameRows : List (List String) := [
    ["20:0lj,0dy bi,0eh bi,0dr ak,0DOLLAR ak,0PERCENT ak,0oc,0li,0av ce,0ai ce,0di,0cz ak,0es,0vj",
     "0ig gb,0hh,0cs et,1cr,1cj,1aw,1bt,1by,1fu,1bu,1bs,1dj,0io,0ka,0bw ak,0gm ak,0bj ak,0fd bi",
     "0ui AT,0fo ac aa A,3B,3C,3D,3E,3F,3G,3H,3I,3J,3K,3L,3M,3N,3O,3P,3Q,3R,3S,3T,3U,3V,3W,3X,3Y,3Z",
     "0av bn bd,0hz hh,0ai bn bd,0be fw,0in fz,0ef fw,0fo ad aa A,3B,3C,3D,3E,3F,3G,3H,3I,3J,3K,3L",
     "3M,3N,3O,3P,3Q,3R,3S,3T,3U,3V,3W,3X,3Y,3Z,0av kd bd,0an fz,0ai kd bd,0cq,A0:0NO-BREAK lj",
     "0cb dy bi,0CENT ak,0POUND ak,0CURRENCY ak,0YEN ak,0BROKEN gc,0hi ak,0bk,0COPYRIGHT ak",
     "0FEMININE ORDINAL ny,0ee al fp eh bi,0mi ak,0xo ps,0REGISTERED ak,0dp,0DEGREE ak",
     "0PLUS-MINUS ak,0hq cj,1aw,0db fw,0MICRO ak,0PILCROW ak,0bb cx,0gi,0hq cr",
     "0MASCULINE ORDINAL ny,0dc al fp eh bi,0VULGAR ht cr fm,3dd,2aw jh,0cb fd bi,0fo ac aa A ab ef",
     "5db,5be,5cq,5bk,5ei aj,3AE,3C ab gi,3E ab ef,5db,5be,5bk,3I ab ef,5db,5be,5bk,3ETH,3N ab cq",
     "3O ab ef,5db,5be,5cq,5bk,0hd ak,0fo ac aa O ab at,3U ab ef,5db,5be,5bk,3Y ab db,3THORN",
     "1ad aa SHARP S,3A ab ef,5db,5be,5cq,5bk,5ei aj,3AE,3C ab gi,3E ab ef,5db,5be,5bk,3I ab ef,5db",
     "5be,5bk,3ETH,3N ab cq,3O ab ef,5db,5be,5cq,5bk,0qt ak,0fo ad aa O ab at,3U ab ef,5db,5be,5bk",
     "3Y ab db,3THORN,3Y ab bk,1ac aa A ab dp,1ad aa A ab dp,1ac aa A ab fe,1ad aa A ab fe",
     "1ac aa A ab mm,1ad aa A ab mm,1ac aa C ab db,1ad aa C ab db,1ac aa C ab be,1ad aa C ab be",
     "1ac aa C ab cx aj,1ad aa C ab cx aj,1ac aa C ab gt,1ad aa C ab gt,1ac aa D ab gt",
     "1ad aa D ab gt,1ac aa D ab at,1ad aa D ab at,1ac aa E ab dp,1ad aa E ab dp,1ac aa E ab fe",
     "1ad aa E ab fe,1ac aa E ab cx aj,1ad aa E ab cx aj,1ac aa E ab mm,1ad aa E ab mm",
     "1ac aa E ab gt,1ad aa E ab gt,1ac aa G ab be,1ad aa G ab be,1ac aa G ab fe,1ad aa G ab fe",
     "1ac aa G ab cx aj,1ad aa G ab cx aj,1ac aa G ab gi,1ad aa G ab gi,1ac aa H ab be",
     "1ad aa H ab be,1ac aa H ab at,1ad aa H ab at,1ac aa I ab cq,1ad aa I ab cq,1ac aa I ab dp",
     "1ad aa I ab dp,1ac aa I ab fe,1ad aa I ab fe,1ac aa I ab mm,1ad aa I ab mm,1ac aa I ab cx aj",
     "1ad aa lc I,1ac el IJ,1ad el IJ,1ac aa J ab be,1ad aa J ab be,1ac aa K ab gi,1ad aa K ab gi",
     "3KRA,1ac aa L ab db,1ad aa L ab db,1ac aa L ab gi,1ad aa L ab gi,1ac aa L ab gt",
     "1ad aa L ab gt,1ac aa L ab bb cx,1ad aa L ab bb cx,1ac aa L ab at,1ad aa L ab at",
     "1ac aa N ab db,1ad aa N ab db,1ac aa N ab gi,1ad aa N ab gi,1ac aa N ab gt,1ad aa N ab gt",
     "4PRECEDED BY li,1ac aa ENG,1ad aa ENG,1ac aa O ab dp,1ad aa O ab dp,1ac aa O ab fe",
     "1ad aa O ab fe,1ac aa O ab al db,1ad aa O ab al db,1ac el OE,1ad el OE,1ac aa R ab db",
     "1ad aa R ab db,1ac aa R ab gi,1ad aa R ab gi,1ac aa R ab gt,1ad aa R ab gt,1ac aa S ab db",
     "1ad aa S ab db,1ac aa S ab be,1ad aa S ab be,1ac aa S ab gi,1ad aa S ab gi,1ac aa S ab gt",
     "1ad aa S ab gt,1ac aa T ab gi,1ad aa T ab gi,1ac aa T ab gt,1ad aa T ab gt,1ac aa T ab at",
     "1ad aa T ab at,1ac aa U ab cq,1ad aa U ab cq,1ac aa U ab dp,1ad aa U ab dp,1ac aa U ab fe",
     "1ad aa U ab fe,1ac aa U ab ei aj,1ad aa U ab ei aj,1ac aa U ab al db,1ad aa U ab al db",
     "1ac aa U ab mm,1ad aa U ab mm,1ac aa W ab be,1ad aa W ab be,1ac aa Y ab be,1ad aa Y ab be",
     "1ac aa Y ab bk,3Z ab db,1ad aa Z ab db,1ac aa Z ab cx aj,1ad aa Z ab cx aj,1ac aa Z ab gt",
     "1ad aa Z ab gt,3fj S,3B ab at,1ac aa B ab bv,5TOPBAR,1ad aa B ab TOPBAR,1ac aa ff fu",
     "1ad aa ff fu,1ac aa fg O,3C ab bv,1ad aa C ab bv,1ac aa AFRICAN D,3D ab bv,5TOPBAR",
     "1ad aa D ab TOPBAR,3cg ml,1ac aa bq E,3wy,3fg E,3F ab bv,1ad aa F ab bv,1ac aa G ab bv,3lo",
     "1ad aa HV,1ac aa ma,3I ab at,3K ab bv,1ad aa K ab bv,3L ab gc,3LAMBDA ab at,1ac aa cg M",
     "3N ab av bv,1ad aa N ab fj ai LEG,1ac aa O ab bb cq,5ky,1ad aa O ab ky,1ac aa OI,1ad aa OI",
     "1ac aa P ab bv,1ad aa P ab bv,1aa YR,1ac aa ff cj,1ad aa ff cj,1ac aa ESH,1aa bq ESH tl",
     "1ad aa T ab gh bv,1ac aa T ab bv,1ad aa T ab bv,1ac aa T ab da bv,3U ab ky,1ad aa U ab ky",
     "1ac aa gp,3V ab bv,3Y ab bv,1ad aa Y ab bv,1ac aa Z ab at,1ad aa Z ab at,1ac aa EZH,4bq",
     "1ad aa EZH bq,4ab hp,1aa cj ab at,1ac aa ff by,1ad aa ff by,1aa cb gq gb ab at,2WYNN",
     "2DENTAL vq,2LATERAL vq,2ALVEOLAR vq,2da vq,1ac aa DZ ab gt,3D ab ad aa Z ab gt",
     "1ad aa DZ ab gt,1ac aa LJ,3L ab ad aa J,1ad aa LJ,1ac aa NJ,3N ab ad aa J,1ad aa NJ",
     "1ac aa A ab gt,1ad aa A ab gt,1ac aa I ab gt,1ad aa I ab gt,1ac aa O ab gt,1ad aa O ab gt",
     "1ac aa U ab gt,1ad aa U ab gt,1ac aa U ab bk bh dp,1ad aa U ab bk bh dp,1ac aa U ab bk bh db",
     "1ad aa U ab bk bh db,1ac aa U ab bk bh gt,1ad aa U ab bk bh gt,1ac aa U ab bk bh ef",
     "1ad aa U ab bk bh ef,3cg E,1ac aa A ab bk bh dp,1ad aa A ab bk bh dp,1ac aa A ab cx aj bh dp",
     "1ad aa A ab cx aj bh dp,1ac aa AE ab dp,1ad aa AE ab dp,1ac aa G ab at,1ad aa G ab at",
     "1ac aa G ab gt,1ad aa G ab gt,1ac aa K ab gt,1ad aa K ab gt,1ac aa O ab mm,1ad aa O ab mm",
     "1ac aa O ab mm bh dp,1ad aa O ab mm bh dp,1ac aa EZH ab gt,1ad aa EZH ab gt,3J ab gt",
     "1ac aa DZ,3D ab ad aa Z,1ad aa DZ,1ac aa G ab db,1ad aa G ab db,1ac aa HWAIR,3WYNN,3N ab ef",
     "1ad aa N ab ef,1ac aa A ab ei aj bh db,1ad aa A ab ei aj bh db,1ac aa AE ab db",
     "1ad aa AE ab db,1ac aa O ab at bh db,1ad aa O ab at bh db,1ac aa A ab al ef,1ad aa A ab al ef",
     "1ac aa A ab cb fe,1ad aa A ab cb fe,1ac aa E ab al ef,1ad aa E ab al ef,1ac aa E ab cb fe",
     "1ad aa E ab cb fe,1ac aa I ab al ef,1ad aa I ab al ef,1ac aa I ab cb fe,1ad aa I ab cb fe",
     "1ac aa O ab al ef,1ad aa O ab al ef,1ac aa O ab cb fe,1ad aa O ab cb fe,1ac aa R ab al ef",
     "1ad aa R ab al ef,1ac aa R ab cb fe,1ad aa R ab cb fe,1ac aa U ab al ef,1ad aa U ab al ef",
     "1ac aa U ab cb fe,1ad aa U ab cb fe,1ac aa S ab es aq,1ad aa S ab es aq,1ac aa T ab es aq",
     "1ad aa T ab es aq,1ac aa YOGH,1ad aa YOGH,1ac aa H ab gt,1ad aa H ab gt,1ac aa N ab fj ai LEG",
     "1ad aa D ab qu,1ac aa OU,1ad aa OU,1ac aa Z ab bv,1ad aa Z ab bv,1ac aa A ab cx aj",
     "1ad aa A ab cx aj,1ac aa E ab gi,1ad aa E ab gi,1ac aa O ab bk bh dp,1ad aa O ab bk bh dp"],
    ["1ac aa O ab cq bh dp,1ad aa O ab cq bh dp,1ac aa O ab cx aj,1ad aa O ab cx aj",
     "1ac aa O ab cx aj bh dp,1ad aa O ab cx aj bh dp,1ac aa Y ab dp,1ad aa Y ab dp,3L ab qu",
     "3N ab qu,3T ab qu,3lc J,3DB gr,3QP gr,1ac aa A ab at,3C ab at,1ad aa C ab at,1ac aa L ab gc",
     "3T ab dm at,1ad aa S ab SWASH hp,3Z ab SWASH hp,1ac aa gq gb,1ad aa gq gb,1ac aa B ab at",
     "3U gc,3cg V,3E ab at,1ad aa E ab at,1ac aa J ab at,1ad aa J ab at,1ac aa ad Q ab bv hp",
     "1ad aa Q ab bv hp,1ac aa R ab at,1ad aa R ab at,1ac aa Y ab at,1ad aa Y ab at,3cg A,3im",
     "3cg im,3B ab bv,3fg O,3C ab qu,3D ab hp,5bv,3bq E,3wy,4ab bv,3fg E,3bq fg E,6ab bv",
     "3gn bq fg E,3lc J ab at,3G ab bv,3iq G,1aa ad ac G,1ad aa lo,3RAMS ky,3cg H,3H ab bv",
     "3HENG ab bv,3I ab at,3ma,1aa ad ac I,1ad aa L ab bb cq,5BELT,5da bv,3LEZH,3cg M,5ab fj LEG",
     "3M ab bv,3N ab av bv,5da bv,1aa ad ac N,1ad aa su O,1aa ad ac OE,1ad aa gn hm,3zc,3cg R",
     "5ab fj LEG,6bv,3R ab fj LEG,5hp,5so,3bq R ab so,1aa ad ac R,4cb R,1ad aa S ab bv,3ESH",
     "3lc J ab at bh bv,3SQUAT bq ESH,3ESH ab qu,3cg T,3T ab da bv,3U gc,3gp,3V ab bv,3cg V,4W,4Y",
     "1aa ad ac Y,1ad aa Z ab da bv,5qu,3EZH,4ab qu,1aa gq gb,2PHARYNGEAL ru FRICATIVE,2cb gq gb",
     "2STRETCHED C,2BILABIAL vq,2ad ac B,1ad aa gn fg E,1aa ad ac G ab bv,4H,1ad aa J ab jt,3cg K",
     "1aa ad ac L,1ad aa Q ab bv,1aa gq gb ab at,2bq gq gb ab at,1ad aa DZ gr,3DEZH gr,3DZ gr ab qu",
     "3TS gr,3TESH gr,3TC gr ab qu,3FENG gr,3LS gr,3LZ gr,1aa BILABIAL PERCUSSIVE",
     "2BIDENTAL PERCUSSIVE,1ad aa cg H ab so,7bh hp,0ey aa ad H,4ab bv,3J,3R,3cg R,5ab bv,3ac cb R",
     "3W,3Y,2tt,2al tt,2cg es,2li,2bq es,2ai dd ei,2av dd ei,2gq gb,2bq gq gb,2av bm,2ai bm,2UP bm",
     "2de bm,2be fw,0gt,0ey aa an fz,2dp,2db fw,2ef fw,2in an fz,3dp,3ef fw,3db fw,2fc io,2dd fc io",
     "2tj ai dd ei,3av dd ei,2UP kw,2de kw,2cz ak,2ng ak,0fe,0cx aj,0ei aj,0mm,0ad cq,0al db fw",
     "0ey aa RHOTIC bv,2gs fw,2ad lo,3L,3S,3X,3bq gq gb,2zz ff gc,2fv ff gc,2MID ff gc,2in ff gc",
     "2EXTRA-LOW ff gc,2YIN DEPARTING ff bi,2YANG DEPARTING ff bi,2VOICING,2UNASPIRATED,2al li",
     "2in de bm,3UP bm,3av bm,3ai bm,3ei,2bb ef fw,3al ef fw,4db fw,2in cq,2ii io,2BEGIN fv ff",
     "2sp fv ff,2BEGIN in ff,2sp in ff,2SHELF,2fg SHELF,2in av ae,0dk ef fw,1db fw,1be fw,1cq,1dp",
     "1qi,1fe,1cx aj,1bk,1bv aj,1ei aj,1al db fw,1gt,1an fz aj,1al an fz aj,2ef fw,1dh,1cb fe",
     "1cg es aj,1es aj,1bq es aj,1es aj ai,1ef fw aq,1db fw aq,1av kw aq,1ai kw aq,1av fp aj,1ky",
     "1av dd ei aq,1UP kw aq,1de kw aq,1cz ak aq,1ng ak aq,1PALATALIZED bv aq,1da bv aq,1cx aq",
     "1bk aq,1ei aq,1es aq,1gi,1mm,1an fz aq,1BRIDGE aq,1cb al ARCH aq,1gt aq,1be fw aq,1fe aq",
     "1cb fe aq,1cq aq,1dp aq,1in fz,1al in fz,1cq hn,1fs at hn,1fj at hn,1fs hh hn,1fj hh hn",
     "1ai dd ei aq,1cb BRIDGE aq,1bn aq,1SEAGULL aq,1X aj,1an cq,1al qi,1ef ff bi,1db ff bi,1kn bz",
     "2KORONIS,2ir mx,2bx,1BRIDGE aj,1gm ak aq,1al an fz aq,1av fp aq,1mi cq aj,1HOMOTHETIC aj",
     "1mh ck TO aj,1av ai ae aq,1bp ae aq,1GRAPHEME zo,1ai bm aj,1av dd ei aj,1FERMATA,1X aq",
     "1av bm aq,1ai bm aq,3bh UP bm aq,2dd ei aj,1cx aj ai,1di aq,1al ei aq,1vw aj,1al fe aq,2fe",
     "2dp,3aq,2cq,2cb fe,2ah ae aq,1fo ad aa A,4E,4I,4O,4U,4C,4D,4H,4M,4R,4T,4V,4X,0kn ac aa HETA",
     "1ad aa HETA,1ac aa iw SAMPI,1ad aa iw SAMPI,1pe ak,1ct pe ak,1ac aa PAMPHYLIAN ye",
     "1ad aa PAMPHYLIAN ye,37A:1bx,1ad bq se kc au,2ga se kc au,2bq ga se kc au,1fd bi,1ac aa YOT",
     "384:1mx,1ir mx,1ac aa im ab mx,1ANO TELEIA,1ac aa gx ab mx,3ETA ab mx,3ma ab mx,38C:3jd ab mx",
     "38E:3gp ab mx,3hm ab mx,1ad aa ma ab ir bh mx,1ac aa im,3ss,3lo,3ml,3gx,3yi,3ETA,3kg,3ma,3nh",
     "3rl,3MU,3NU,3XI,3jd,3PI,3xp,3A3:3kc,3TAU,3gp,3zc,3CHI,3PSI,3hm,3ma ab ir,3gp ab ir",
     "1ad aa im ab mx,3gx ab mx,3ETA ab mx,3ma ab mx,3gp ab ir bh mx,3im,3ss,3lo,3ml,3gx,3yi,3ETA",
     "3kg,3ma,3nh,3rl,3MU,3NU,3XI,3jd,3PI,3xp,3ar kc,3kc,3TAU,3gp,3zc,3CHI,3PSI,3hm,3ma ab ir",
     "3gp ab ir,3jd ab mx,3gp ab mx,3hm ab mx,1ac KAI au,1ss au,1kg au,1gp ab bv au,3db bh bv au",
     "3bk bh bv au,1zc au,1PI au,1KAI au,1aa iw KOPPA,1ad aa iw KOPPA,1aa STIGMA,1ad aa STIGMA",
     "1aa ye,1ad aa ye,1aa KOPPA,1ad aa KOPPA,1aa SAMPI,1ad aa SAMPI,0il ac aa SHEI,1ad aa SHEI",
     "1ac aa FEI,1ad aa FEI,1ac aa KHEI,1ad aa KHEI,1ac aa HORI,1ad aa HORI,1ac aa GANGIA",
     "1ad aa GANGIA,1ac aa SHIMA,1ad aa SHIMA,1ac aa DEI,1ad aa DEI,0kn nh au,1xp au,1se kc au",
     "1aa YOT,1ac kg au,1se gx au,1bq se gx au,1ac aa SHO,1ad aa SHO,1ac se kc au,2aa SAN",
     "1ad aa SAN,1xp ab at au,1ac bq se kc au,2ga se kc au,2bq ga se kc au,0jy ac aa IE ab ef,3IO",
     "3DJE,3GJE,3UKRAINIAN IE,3DZE,3BYELORUSSIAN-UKRAINIAN I,3YI,3JE,3LJE,3NJE,3TSHE,3KJE,3I ab ef",
     "3fs U,3DZHE,3A,3BE,3VE,3GHE,3DE,3IE,3ZHE,3ZE,3I,3fs I,3KA,3EL,3EM,3EN,3O,3PE,3ER,3ES,3TE,3U",
     "3EF,3HA,3TSE,3CHE,3kf,3SHCHA,3HARD ak,3YERU,3xo ak,3E,3YU,3YA,1ad aa A,3BE,3VE,3GHE,3DE,3IE",
     "3ZHE,3ZE,3I,3fs I,3KA,3EL,3EM,3EN,3O,3PE,3ER,3ES,3TE,3U,3EF,3HA,3TSE,3CHE,3kf,3SHCHA,3HARD ak",
     "3YERU,3xo ak,3E,3YU,3YA,3IE ab ef,3IO,3DJE,3GJE,3UKRAINIAN IE,3DZE,3BYELORUSSIAN-UKRAINIAN I",
     "3YI,3JE,3LJE,3NJE,3TSHE,3KJE,3I ab ef,3fs U,3DZHE,1ac aa hm,1ad aa hm,1ac aa YAT,1ad aa YAT",
     "1ac aa it E,1ad aa it E,1ac aa dz vy,1ad aa dz vy,1ac aa it dz vy,1ad aa it dz vy",
     "1ac aa BIG vy,1ad aa BIG vy,1ac aa it BIG vy,1ad aa it BIG vy,1ac aa KSI,1ad aa KSI",
     "1ac aa PSI,1ad aa PSI,1ac aa FITA,1ad aa FITA,1ac aa xz,1ad aa xz,1ac aa xz ab al ef fw",
     "1ad aa xz ab al ef fw,1ac aa UK,1ad aa UK,1ac aa tr hm,1ad aa tr hm,1ac aa hm ab TITLO",
     "1ad aa hm ab TITLO,1ac aa OT,1ad aa OT,1ac aa KOPPA,1ad aa KOPPA,1nv ak,0dk jy TITLO",
     "2PALATALIZATION,2dw PNEUMATA,2dx PNEUMATA,2POKRYTIE,2az nv ak,2sd ak,0jy ac aa fs I ab hp",
     "1ad aa fs I ab hp,1ac aa SEMISOFT ak,1ad aa SEMISOFT ak,1ac aa ER ab TICK,1ad aa ER ab TICK",
     "1ac aa GHE ab UPTURN,1ad aa GHE ab UPTURN,1ac aa GHE ab at,1ad aa GHE ab at",
     "1ac aa GHE ab bb bv,1ad aa GHE ab bb bv,1ac aa ZHE ab dg,1ad aa ZHE ab dg,1ac aa ZE ab dg",
     "1ad aa ZE ab dg,1ac aa KA ab dg,1ad aa KA ab dg,1ac aa KA ab an at,1ad aa KA ab an at"],
    ["1ac aa KA ab at,1ad aa KA ab at,1ac aa BASHKIR KA,1ad aa BASHKIR KA,1ac aa EN ab dg",
     "1ad aa EN ab dg,1ac el EN GHE,1ad el EN GHE,1ac aa PE ab bb bv,1ad aa PE ab bb bv",
     "1ac aa od HA,1ad aa od HA,1ac aa ES ab dg,1ad aa ES ab dg,1ac aa TE ab dg,1ad aa TE ab dg",
     "1ac aa gl U,1ad aa gl U,1ac aa gl U ab at,1ad aa gl U ab at,1ac aa HA ab dg,1ad aa HA ab dg",
     "1ac el TE TSE,1ad el TE TSE,1ac aa CHE ab dg,1ad aa CHE ab dg,1ac aa CHE ab an at",
     "1ad aa CHE ab an at,1ac aa SHHA,1ad aa SHHA,1ac aa od CHE,1ad aa od CHE,1ac aa od CHE ab dg",
     "1ad aa od CHE ab dg,1aa PALOCHKA,1ac aa ZHE ab fe,1ad aa ZHE ab fe,1ac aa KA ab bv",
     "1ad aa KA ab bv,1ac aa EL ab hp,1ad aa EL ab hp,1ac aa EN ab bv,1ad aa EN ab bv",
     "1ac aa EN ab hp,1ad aa EN ab hp,1ac aa KHAKASSIAN CHE,1ad aa KHAKASSIAN CHE,1ac aa EM ab hp",
     "1ad aa EM ab hp,3PALOCHKA,1ac aa A ab fe,1ad aa A ab fe,1ac aa A ab bk,1ad aa A ab bk",
     "1ac el A IE,1ad el A IE,1ac aa IE ab fe,1ad aa IE ab fe,1ac aa wy,1ad aa wy,1ac aa wy ab bk",
     "1ad aa wy ab bk,1ac aa ZHE ab bk,1ad aa ZHE ab bk,1ac aa ZE ab bk,1ad aa ZE ab bk",
     "1ac aa od DZE,1ad aa od DZE,1ac aa I ab dp,1ad aa I ab dp,1ac aa I ab bk,1ad aa I ab bk",
     "1ac aa O ab bk,1ad aa O ab bk,1ac aa su O,1ad aa su O,1ac aa su O ab bk,1ad aa su O ab bk",
     "1ac aa E ab bk,1ad aa E ab bk,1ac aa U ab dp,1ad aa U ab dp,1ac aa U ab bk,1ad aa U ab bk",
     "1ac aa U ab al db,1ad aa U ab al db,1ac aa CHE ab bk,1ad aa CHE ab bk,1ac aa GHE ab dg",
     "1ad aa GHE ab dg,1ac aa YERU ab bk,1ad aa YERU ab bk,1ac aa GHE ab at bh bv",
     "1ad aa GHE ab at bh bv,1ac aa HA ab bv,1ad aa HA ab bv,1ac aa HA ab at,1ad aa HA ab at",
     "1ac aa ve DE,1ad aa ve DE,1ac aa ve DJE,1ad aa ve DJE,1ac aa ve ZJE,1ad aa ve ZJE",
     "1ac aa ve DZJE,1ad aa ve DZJE,1ac aa ve LJE,1ad aa ve LJE,1ac aa ve NJE,1ad aa ve NJE",
     "1ac aa ve SJE,1ad aa ve SJE,1ac aa ve TJE,1ad aa ve TJE,1ac aa bq ZE,1ad aa bq ZE",
     "1ac aa EL ab bv,1ad aa EL ab bv,1ac aa LHA,1ad aa LHA,1ac aa RHA,1ad aa RHA,1ac aa YAE",
     "1ad aa YAE,1ac aa QA,1ad aa QA,1ac aa WE,1ad aa WE,1ac aa ALEUT KA,1ad aa ALEUT KA",
     "1ac aa EL ab bb bv,1ad aa EL ab bb bv,1ac aa EN ab bb bv,1ad aa EN ab bb bv,1ac aa PE ab dg",
     "1ad aa PE ab dg,1ac aa SHHA ab dg,1ad aa SHHA ab dg,1ac aa EN ab av bv,1ad aa EN ab av bv",
     "1ac aa DZZHE,1ad aa DZZHE,1ac aa DCHE,1ad aa DCHE,1ac aa EL ab dg,1ad aa EL ab dg",
     "531:0ARMENIAN ac aa AYB,3BEN,3GIM,3DA,3ECH,3ZA,3EH,3ET,3TO,3ZHE,3INI,3LIWN,3XEH,3CA,3KEN,3HO",
     "3JA,3GHAD,3CHEH,3MEN,3YI,3NOW,3kf,3VO,3kz,3PEH,3JHEH,3RA,3SEH,3VEW,3TIWN,3uy,3CO,3YIWN,3PIWR",
     "3KEH,3OH,3FEH,559:1ey aa av dd ei,1li,1EMPHASIS bi,1dy bi,1es,1fd bi,1fb bi,1ad aa cg AYB",
     "3AYB,3BEN,3GIM,3DA,3ECH,3ZA,3EH,3ET,3TO,3ZHE,3INI,3LIWN,3XEH,3CA,3KEN,3HO,3JA,3GHAD,3CHEH",
     "3MEN,3YI,3NOW,3kf,3VO,3kz,3PEH,3JHEH,3RA,3SEH,3VEW,3TIWN,3uy,3CO,3YIWN,3PIWR,3KEH,3OH,3FEH",
     "2el ECH YIWN,2aa YI ab at,1ig gb,1ps,58D:0uw ARMENIAN ETERNITY ak,0xf ARMENIAN ETERNITY ak",
     "0ARMENIAN DRAM ak,591:0HEBREW fw ETNAHTA,2SEGOL,2SHALSHELET,2ZAQEF QATAN,3GADOL,2TIPEHA",
     "2REVIA,2ZARQA,2PASHTA,2YETIV,2TEVIR,2GERESH,3MUQDAM,2GERSHAYIM,2QARNEY PARA,2TELISHA GEDOLA",
     "2PAZER,2ATNAH HAFUKH,2MUNAH,2MAHAPAKH,2MERKHA,3KEFULA,2DARGA,2QADMA,2TELISHA QETANA",
     "2YERAH BEN YOMO,2OLE,2ILUY,2DEHI,2ZINOR,1bi MASORA bo,1rz SHEVA,2HATAF SEGOL,3PATAH,3QAMATS",
     "2HIRIQ,2TSERE,2SEGOL,2PATAH,2QAMATS,2HOLAM,3HASER rp VAV,2QUBUTS,2ja OR MAPIQ,2METEG",
     "1cc MAQAF,1rz RAFE,1cc PASEQ,1rz mj cx,2SIN cx,1cc SOF PASUQ,1bi dq cx,2ct cx,1cc ow HAFUKHA",
     "1rz QAMATS QATAN,5D0:1aa eb,2BET,2pj,2DALET,2HE,2VAV,2rk,2HET,2TET,2YOD,2ar vv,2vv,2LAMED",
     "2ar MEM,2MEM,2ar ow,2ow,2lq,2AYIN,2ar PE,2PE,2ar TSADI,2TSADI,2QOF,2yz,2mj,2TAV,5EF:1YOD bg",
     "1el YIDDISH al VAV,3VAV YOD,3al YOD,1cc GERESH,2GERSHAYIM,600:0ko dr ak,1ak SANAH",
     "1FOOTNOTE wi,1ak SAFHA,2SAMVAT,1dr bi aj,0ix CUBE ROOT,1FOURTH ROOT,0ko RAY,0ix PER MILLE ak",
     "2jo ba ak,0AFGHANI ak,0ko es,1DATE ec,1POETIC VERSE ak,1ak MISRA",
     "2SALLALLAHOU ALAYHE WASSALLAM,2ALAYHE ASSALLAM,2RAHMATULLAH ALAYHE,2RADI ALLAHOU ANHU",
     "2TAKHALLUS,1ad fv wu,3el eb ab sf ab he,3vx,2tx,2xj,2sg,1ka,1aa bi,1sp OF TEXT bi",
     "1eq cx cc bi,1fd bi,1aa KASHMIRI he,2ib,2eb ab zi aj,4ib aj,2rq ab ib aj,2eb ab ib aq",
     "2he ab ib aj,2eb,2BEH,2TEH MARBUTA,2TEH,2THEH,2fi,2iu,2hw,2DAL,2THAL,2uy,2vx,2ne,2my,2SAD",
     "2DAD,2wu,2ZAH,2ul,2on,2KEHEH ab cj du aj,4aw du aq,2FARSI he ab cb V,5cj du aj,5aw du aj",
     "1TATWEEL,1aa FEH,2xx,2vv,2sf,2cu,2kb,2wo,2rq,2eb cl,2he,1vm,1DAMMATAN,1zm,1tx,1xj,1sg,1SHADDA",
     "1SUKUN,1MADDAH aj,1ib aj,2aq,1qc eb,1cb xj,1bi kb GHUNNA,1ZWARAKAY,1cm ak ad V aj,3cb ad V aj",
     "3cx aq,1bq xj,1tx ab cj du,1WAVY ib aq,0ix cs et,2cr,2cj,2aw,2bt,2by,2fu,2bu,2bs,2dj",
     "0ko PERCENT ak,1DECIMAL ec,1nv ec,1by fa hg,1aa lc BEH,3xx,2hq eb,2eb WASLA,3ab WAVY ib aj",
     "6aq,2fv ib,4eb,4rq,2U ab ib aj,2fv ib he,2TTEH,2TTEHEH,2BEEH,2TEH ab ei,4aw du aj ay,2PEH",
     "2TEHEH,2BEHEH,2iu ab ib aj,4cj du an aj,2NYEH,2DYEH,2iu ab aw du aj,2TCHEH,2TCHEHEH,2DDAL",
     "2DAL ab ei,4cx aq,6bh ad wu,2DAHAL,2DDAHAL,2DUL,2DAL ab aw du aj ay,4bt du aj,2RREH",
     "2uy ab ad V,4ei,4cx aq,4ad V aq,4cx aq bh cx aj,4cj du aj,2JEH,2uy ab bt du aj",
     "2ne ab cx aq bh cx aj,4aw du aq,7bh aw du aj,2SAD ab cj du aq,4aw du aj,2wu ab aw du aj",
     "2ul ab aw du aj,2lc FEH,2FEH ab cx MOVED aq,5aq,2VEH,2FEH ab aw du aq,2PEHEH,2xx ab cx aj",
     "4aw du aj,2KEHEH,2SWASH vv,2vv ab ei,4cx aj,2NG,2vv ab aw du aq,2GAF,3ab ei,2NGOEH",
     "2GAF ab cj du aq,2GUEH,2GAF ab aw du aj,2sf ab ad V,4cx aj,4aw du aj,6aq,2kb ab cx aq,3GHUNNA",
     "2RNOON,2kb ab ei,4aw du aj,2wo DOACHASHMEE,2TCHEH ab cx aj,2wo ab he aj,3GOAL,4ab ib aj",
     "2TEH MARBUTA GOAL,2rq ab ei,2KIRGHIZ OE,2OE,2U,2YU,2KIRGHIZ YU,2rq ab cj du aj,2VE,2FARSI he",
     "2he ab hp,4ad V,2rq ab cx aj,2E,2he ab aw du aq,3BARREE,4ab ib aj,1ig gb,1aa AE",
     "1ad fv el SAD ab sf ab eb cl,4xx ab sf ab eb cl,3cu ap af,3sf eb,3fi,3aw du,3ne,1sp OF AYAH"],
    ["1START OF RUB EL HIZB,1ad fv pc et,3UPRIGHT RECTANGULAR et,3lc sk OF hw,3cu ag af,2in ne",
     "2fv zi,2rq,2he,2fv he,3kb,1PLACE OF SAJDAH,1EMPTY ea in gb,3fv gb,1pc fv gb ab FILLED ea",
     "1ad in cu,1aa DAL ab cb V,2uy ab cb V,0qq ix cs et,3cr,3cj,3aw,3bt,3by,3fu,3bu,3bs,3dj",
     "0ko aa my ab cx aq,2DAD ab cx aq,2on ab cx aq,1ak SINDHI oc,3POSTPOSITION MEN,1aa wo ab cb V",
     "0SYRIAC sp OF wg,1SUPRALINEAR ig gb,1SUBLINEAR ig gb,1SUPRALINEAR io,1SUBLINEAR io,1as io",
     "1io SKEWED av,3ai,1SUPRALINEAR io SKEWED av,1SUBLINEAR io SKEWED ai,1CONTRACTION",
     "1HARKLEAN OBELUS,2METOBELUS,2ASTERISCUS,70F:1fb bi,1aa ALAPH,2hq ALAPH,2uk,2GAMAL,3GARSHUNI",
     "2DALATH,2lc DALATH RISH,2HE,2rq,2vx,2wn,2TETH,3GARSHUNI,2YUDH,3HE,2vg,2LAMADH,2MIM,2ow",
     "2SEMKATH,2ar SEMKATH,2E,2PE,2bq PE,2qf,2QAPH,2RISH,2mj,2TAW,2PERSIAN BHETH,3GHAMAL,3DHALATH",
     "1PTHAHA aj,2aq,2ga,1ZQAPHA aj,2aq,2ga,1RBASA aj,2aq,1ga ZLAMA as,3ANGULAR,1HBASA aj,2aq",
     "1HBASA-ESASA ga,1ESASA aj,2aq,1RWAHA,1FEMININE cx,1QUSHSHAYA,1RUKKAKHA,1cj an du aj,4aq",
     "1aw du aj,3aq,1kr fz aj,3aq,1MUSIC,1BARREKH,74D:1aa SOGDIAN ZHAIN,3KHAPH,3FE",
     "0ko aa BEH ab aw du HORIZONTALLY aq,4cx aq bh aw du aj,4aw du ca bp aq,9bh cj du aj",
     "4cj du aq bh cx aj,4cb ad V aq,4ad V,2iu ab cj du aj,4aw du ca bp aq",
     "2DAL ab cj du oe aq bh ad wu,4cb ad V aq,2uy ab at,2ne ab bt du aj,2ul ab cj du aj",
     "4aw du ca ay aj,4cj du oe aj,2FEH ab cj du aq,4aw du ca bp aq,2KEHEH ab cx aj,4aw du aj",
     "6ca bp aq,2cu ab cx aj,5aq,2kb ab cj du aq,4ad wu,5V,2sf ab gc,2uy ab cj du oe aj,4ib aj",
     "2ne ab cj du oe aj,2iu ab ad ko aa wu aq,8bh cj du,2ne ab ad ko aa wu bh cj du",
     "2uy ab ad ko aa wu bh cj du,2iu ab ad ko aa wu aj,2eb ab qq ix cs cj aj,7aw aj",
     "2FARSI he ab qq ix cs cj aj,8aw aj,8bt aq,2rq ab qq ix cs cj aj,7aw aj",
     "2he BARREE ab qq ix cs cj aj,8aw aj,2iu ab qq ix cs bt aq,2ne ab qq ix cs bt aj,4cb V",
     "2vv ab cj du aj,0THAANA aa HAA,2SHAVIYANI,2NOONU,2RAA,2BAA,2LHAVIYANI,2KAAFU,2ALIFU,2VAAVU",
     "2MEEMU,2FAAFU,2DHAALU,2THAA,2LAAMU,2GAAFU,2GNAVIYANI,2SEENU,2DAVIYANI,2ZAVIYANI,2TAVIYANI",
     "2YAA,2PAVIYANI,2JAVIYANI,2CHAVIYANI,2TTAA,2HHAA,2KHAA,2THAALU,2ZAA,2SHEENU,2SAADHU,2DAADHU",
     "2TO,2ZO,2AINU,2GHAINU,2QAAFU,2WAAVU,1ABAFILI,1AABAAFILI,1IBIFILI,1EEBEEFILI,1UBUFILI",
     "1OOBOOFILI,1EBEFILI,1EYBEYFILI,1OBOFILI,1OABOAFILI,1SUKUN,1aa NAA,7C0:0NKO cs et,2cr,2cj,2aw",
     "2bt,2by,2fu,2bu,2bs,2dj,1aa A,2EE,2I,2E,2U,2OO,2O,2DAGBASINNA,2N,2BA,2PA,2TA,2JA,2kz,2DA,2RA",
     "2RRA,2SA,2GBA,2FA,2KA,2LA,2NA WOLOSO,2MA,2lb,2NA,2HA,2WA,2YA,2lb WOLOSO,2JONA JA,3kz,3RA",
     "1dk fs fv ff,3in ff,3ok ff,2fj DESCENDING ff,3fv ff,3in ff,3ok ff,2NASALIZATION bi,2al cx aj",
     "1fv ff li,1in ff li,1au OO DENNEN,2GBAKURUNEN,1es,1dy bi,1LAJANYALAN,7FD:1DANTAYALAN",
     "1DOROME ak,1TAMAN ak,0SAMARITAN aa ALAF,2BIT,2GAMAN,2DALAT,2IY,2BAA,2ZEN,2IT,2TIT,2YUT,2KAAF",
     "2LABAT,2MIM,2ow,2SINGAAT,2IN,2FI,2TSAADIY,2QUF,2RISH,2SHAN,2TAAF,1bi IN,2IN-ALAF,2OCCLUSION",
     "2ja,1ey aa EPENTHETIC YUT,1bi EPENTHETIC YUT,1cm ak fj E,3E,3OVERLONG AA,3fj AA,3AA",
     "3OVERLONG A,3fj A,3A,1ey aa fs A,1cm ak fs A,3fj U,3U,1ey aa I,1cm ak fj I,3I,3O,3SUKUN",
     "1bi NEQUDAA,830:1cc NEQUDAA,2AFSAAQ,2ANGED,2BAU,2ATMAAU,2SHIYYAALAA,1fb bi,1cc MELODIC QITSA",
     "2ZIQAA,2QITSA,2ZAEF,2TURU,2ARKAANU,2SOF MASHFAAT,2ANNAAU,840:0MANDAIC aa HALQA,2AB,2AG,2AD",
     "2AH,2USHENNA,2AZ,2IT,2ATT,2AKSA,2AK,2AL,2AM,2AN,2AS,2IN,2AP,2ASZ,2AQ,2AR,2pw,2AT,2DUSHENNA",
     "2KAD,2ul,1AFFRICATION bi,1VOCALIZATION bi,1ug bi,85E:1cc,860:0SYRIAC aa MALAYALAM ke,3JA,3lb",
     "3nu,3pp,3NNNA,3py,3RA,3xe,3LLLA,3qz,870:0ko aa eb ab vs tx,5qy ai tx,4ai bb at,4av bb at",
     "4vs sg,5ha ai sg,5tr cx aj,5ai tr cx,5av tr cx,5tr cx aq,4cx aj,4vs qy ai tx bh cx aj",
     "4ai bb at bh cx aj,4vs ha ai sg bh cx aj,5qy ai tx bh av ei,4ai bb at bh av ei",
     "4vs ha ai sg bh av ei,5ai ib,5av ib,1TATWEEL ab OVERSTRUCK ib,4rq,3cj du aq,1aa THIN he",
     "1BASELINE tr cx,1ii tr cx,1aa kb ab cb ad V,2iu ab cb ad V aq,2wu ab cx aq,4aw du aq",
     "2KEHEH ab cj du oe aq,1an hp,890:1POUND bi aj,1PIASTRE bi aj,898:1ad fv wa AL-JUZ",
     "2in wa ISHMAAM,4IMAALA,4TASHEEL,1zi WAAJIB,1hq eb MOKHASSAS,1DOUBLED zi,1dd zi dv zi",
     "1aa BEH ab ad V aq,4ib aj,2fi ab cj du aj,2wu ab cj du aj,2FEH ab cx aq bh aw du aj",
     "2xx ab cx aq,2sf ab al gc,2cu ab aw du aj,2he ab cj du aq bh ib aj,8cx aj,2uy ab tl",
     "2rq ab cx yj,2ROHINGYA he,2in eb,2DAL ab aw du aq,2SAD ab aw du aq,2GAF ab cb at,2gl rq",
     "2vx ab cb V aj,2ul ab aw du aq,2vv ab cx aq,2xx ab cx aq bh NO du aj,2BEH ab ad cu aj",
     "2PEH ab ad cu aj,2TEH ab ad TEH aj,2uy ab ad kb aj,2he ab cj du aq bh ad kb aj,2AFRICAN FEH",
     "3xx,3kb,2PEH ab ad V,2TEH ab ad V,2TTEH ab ad V,2TCHEH ab ad V,2KEHEH ab ad V,2on ab aw du aj",
     "2AFRICAN xx ab aw du aj,2fi ab aw du aj,6aq,2sf ab ad ko aa wu aj,2GRAF,1ad FARSI he",
     "2fv FARSI he,3he BARREE ab cj du aq,3wa SAH,3ZAH,1ed tr cx aj,4aq,1SUKUN aq,1ed bo aq",
     "2tr cx km bo aq,1ad in rq,2fv wa AR-RUB,3SAD,3ul,3xx,3kb ab sg,2in kb ab sg",
     "2fv wa ATH-THALATHA,4AS-SAJDA,4AN-NISF,4SAKTA,4QIF,4WAQFA,3FOOTNOTE wi,3ak SAFHA",
     "1DISPUTED sp OF AYAH,1cg xj aq,1kd tx,2xj,2sg,2vm,2DAMMATAN,2zm,1ff cr cx aj,2cj du aj,2tl aj",
     "2cr cx aq,2cj du aq,2tl aq,1fg vm,2DAMMATAN,2zm,1ad fv rq,1tx ab ei,3cx aj,1sg ab cx aq",
     "1av bm aj,1ai bm aj,1av bm aq,1ai bm aq,1al ai bm aj,5ab cx,1ai bm aj ab cx,1xj ab cx",
     "1bi oj kb GHUNNA,0DEVANAGARI ak cb dh,2dh,2cv,2ex,1aa fs A,2A,2AA,2I,2II,2U,2UU,2cy R,3L",
     "2mr E,2fs E,2E,2AI,2mr O,2fs O,2O,2AU,2KA,2lf,2GA,2oo,2ke,2CA,2kz,2JA,2tf,2lb,2nu,2jl,2or,2jx",
     "2pp,2TA,2lp,2DA,2ov,2NA,2NNNA,2PA,2mz,2BA,2py,2MA,2YA,2RA,2RRA,2LA,2xe,2LLLA,2VA,2kf,2qz,2SA",
     "2HA,1cm ak OE,3OOE,1ak kk,2iv,1cm ak AA,3I,3II,3U,3UU,3cy R,4RR,3mr E,3fs E,3E,3AI,3mr O",
     "3fs O,3O,3AU,1ak fk,1cm ak PRISHTHAMATRA E,3AW,1OM,1STRESS ak UDATTA,3ANUDATTA,1ef fw,1db fw",
     "1cm ak mr fj E,3UE,3UUE,1aa QA,2KHHA,2GHHA,2ZA,2DDDHA,2RHA,2FA,2YYA,2cy RR,3LL,1cm ak cy L"],
    ["4LL,1jc,1al jc,1cs et,2cr,2cj,2aw,2bt,2by,2fu,2bu,2bs,2dj,1fb ak,1ak fv SPACING cx,1aa mr A",
     "2OE,2OOE,2AW,2UE,2UUE,2MARWARI or,2ZHA,2bl YA,2GGA,2JJA,2gq gb,2DDDA,2BBA,0BENGALI ANJI",
     "1ak dh,2cv,2ex,985:1aa A,2AA,2I,2II,2U,2UU,2cy R,3L,98F:2E,2AI,993:2O,2AU,2KA,2lf,2GA,2oo,2ke",
     "2CA,2kz,2JA,2tf,2lb,2nu,2jl,2or,2jx,2pp,2TA,2lp,2DA,2ov,2NA,9AA:2PA,2mz,2BA,2py,2MA,2YA,2RA",
     "9B2:2LA,9B6:2kf,2qz,2SA,2HA,9BC:1ak kk,2iv,1cm ak AA,3I,3II,3U,3UU,3cy R,4RR,9C7:3E,3AI",
     "9CB:3O,3AU,1ak fk,1aa KHANDA TA,9D7:1AU mn bi,9DC:1aa RRA,2RHA,9DF:2YYA,2cy RR,3LL",
     "1cm ak cy L,4LL,9E6:1cs et,2cr,2cj,2aw,2bt,2by,2fu,2bu,2bs,2dj,1aa RA ab bb dm,4ct dm",
     "1RUPEE bi,2ak,1CURRENCY NUMERATOR cr,3cj,3aw,3bt,3cr LESS THAN rr DENOMINATOR,2DENOMINATOR pa",
     "1ISSHAR,1GANDA bi,1aa VEDIC cv,1fb ak,1SANDHI bi,A01:0GURMUKHI ak ADAK BINDI,2BINDI,2ex",
     "A05:1aa A,2AA,2I,2II,2U,2UU,A0F:2EE,2AI,A13:2OO,2AU,2KA,2lf,2GA,2oo,2ke,2CA,2kz,2JA,2tf,2lb",
     "2nu,2jl,2or,2jx,2pp,2TA,2lp,2DA,2ov,2NA,A2A:2PA,2mz,2BA,2py,2MA,2YA,2RA,A32:2LA,2xe,A35:2VA",
     "2kf,A38:2SA,2HA,A3C:1ak kk,A3E:1cm ak AA,3I,3II,3U,3UU,A47:3EE,3AI,A4B:3OO,3AU,1ak fk",
     "A51:2UDAAT,A59:1aa KHHA,2GHHA,2ZA,2RRA,A5E:2FA,A66:1cs et,2cr,2cj,2aw,2bt,2by,2fu,2bu,2bs,2dj",
     "1TIPPI,1ADDAK,1IRI,1URA,1EK ONKAR,1ak YAKASH,1fb ak,A81:0GUJARATI ak dh,2cv,2ex,A85:1aa A,2AA",
     "2I,2II,2U,2UU,2cy R,3L,1cm mr E,A8F:1aa E,2AI,1cm mr O,A93:1aa O,2AU,2KA,2lf,2GA,2oo,2ke,2CA",
     "2kz,2JA,2tf,2lb,2nu,2jl,2or,2jx,2pp,2TA,2lp,2DA,2ov,2NA,AAA:2PA,2mz,2BA,2py,2MA,2YA,2RA",
     "AB2:2LA,2xe,AB5:2VA,2kf,2qz,2SA,2HA,ABC:1ak kk,2iv,1cm ak AA,3I,3II,3U,3UU,3cy R,4RR,3mr E",
     "AC7:3E,3AI,3mr O,ACB:3O,3AU,1ak fk,AD0:1OM,AE0:1aa cy RR,3LL,1cm ak cy L,4LL,AE6:1cs et,2cr",
     "2cj,2aw,2bt,2by,2fu,2bu,2bs,2dj,1fb ak,1RUPEE ak,AF9:1aa ZHA,1ak SUKUN,2SHADDA,2MADDAH",
     "2THREE-DOT kk aj,2bo kk aj,2TWO-CIRCLE kk aj,B01:0ORIYA ak dh,2cv,2ex,B05:1aa A,2AA,2I,2II,2U",
     "2UU,2cy R,3L,B0F:2E,2AI,B13:2O,2AU,2KA,2lf,2GA,2oo,2ke,2CA,2kz,2JA,2tf,2lb,2nu,2jl,2or,2jx",
     "2pp,2TA,2lp,2DA,2ov,2NA,B2A:2PA,2mz,2BA,2py,2MA,2YA,2RA,B32:2LA,2xe,B35:2VA,2kf,2qz,2SA,2HA",
     "B3C:1ak kk,2iv,1cm ak AA,3I,3II,3U,3UU,3cy R,4RR,B47:3E,3AI,B4B:3O,3AU,1ak fk,B55:2qi",
     "1AI mn bi,1AU mn bi,B5C:1aa RRA,2RHA,B5F:2YYA,2cy RR,3LL,1cm ak cy L,4LL,B66:1cs et,2cr,2cj",
     "2aw,2bt,2by,2fu,2bu,2bs,2dj,1ISSHAR,1aa WA,1ht cr fm,3dd,2aw jh,2cr ta,3ie,2aw yt",
     "B82:0TAMIL ak cv,2ex,B85:1aa A,2AA,2I,2II,2U,2UU,B8E:2E,2EE,2AI,B92:2O,2OO,2AU,2KA,B99:2ke",
     "2CA,B9C:2JA,B9E:2lb,2nu,BA3:2pp,2TA,BA8:2NA,2NNNA,2PA,BAE:2MA,2YA,2RA,2RRA,2LA,2xe,2LLLA,2VA",
     "2kf,2qz,2SA,2HA,BBE:1cm ak AA,3I,3II,3U,3UU,BC6:3E,3EE,3AI,BCA:3O,3OO,3AU,1ak fk,BD0:1OM",
     "BD7:1AU mn bi,BE6:1cs et,2cr,2cj,2aw,2bt,2by,2fu,2bu,2bs,2dj,1dr jo,2cr az,3ba,1DAY ak",
     "1MONTH ak,1YEAR ak,1DEBIT ak,1CREDIT ak,1AS aj ak,1RUPEE ak,1dr ak,C00:0TELUGU ak dk dh aj",
     "2dh,2cv,2ex,2dk cv aj,1aa A,2AA,2I,2II,2U,2UU,2cy R,3L,C0E:2E,2EE,2AI,C12:2O,2OO,2AU,2KA,2lf",
     "2GA,2oo,2ke,2CA,2kz,2JA,2tf,2lb,2nu,2jl,2or,2jx,2pp,2TA,2lp,2DA,2ov,2NA,C2A:2PA,2mz,2BA,2py",
     "2MA,2YA,2RA,2RRA,2LA,2xe,2LLLA,2VA,2kf,2qz,2SA,2HA,C3C:1ak kk,2iv,1cm ak AA,3I,3II,3U,3UU",
     "3cy R,4RR,C46:3E,3EE,3AI,C4A:3O,3OO,3AU,1ak fk,C55:1mn bi,1AI mn bi,C58:1aa vu,2DZA,2RRRA",
     "C5D:2NAKAARA POLLU,C60:2cy RR,3LL,1cm ak cy L,4LL,C66:1cs et,2cr,2cj,2aw,2bt,2by,2fu,2bu,2bs",
     "2dj,C77:1ak ut,1ht cs et rp ODD za OF bt,3cr rp ODD za OF bt,3cj rp ODD za OF bt",
     "3aw rp ODD za OF bt,3cr rp EVEN za OF bt,3cj rp EVEN za OF bt,3aw rp EVEN za OF bt,1ak TUUMU",
     "0KANNADA ak SPACING dh,2dh,2cv,2ex,2ut,1aa A,2AA,2I,2II,2U,2UU,2cy R,3L,C8E:2E,2EE,2AI,C92:2O",
     "2OO,2AU,2KA,2lf,2GA,2oo,2ke,2CA,2kz,2JA,2tf,2lb,2nu,2jl,2or,2jx,2pp,2TA,2lp,2DA,2ov,2NA",
     "CAA:2PA,2mz,2BA,2py,2MA,2YA,2RA,2RRA,2LA,2xe,CB5:2VA,2kf,2qz,2SA,2HA,CBC:1ak kk,2iv,1cm ak AA",
     "3I,3II,3U,3UU,3cy R,4RR,CC6:3E,3EE,3AI,CCA:3O,3OO,3AU,1ak fk,CD5:1mn bi,1AI mn bi",
     "CDD:1aa NAKAARA POLLU,2FA,CE0:2cy RR,3LL,1cm ak cy L,4LL,CE6:1cs et,2cr,2cj,2aw,2bt,2by,2fu",
     "2bu,2bs,2dj,CF1:1ak pg,2ox,D00:0MALAYALAM ak dk cv aj,2dh,2cv,2ex,1aa VEDIC cv,2A,2AA,2I,2II",
     "2U,2UU,2cy R,3L,D0E:2E,2EE,2AI,D12:2O,2OO,2AU,2KA,2lf,2GA,2oo,2ke,2CA,2kz,2JA,2tf,2lb,2nu,2jl",
     "2or,2jx,2pp,2TA,2lp,2DA,2ov,2NA,2NNNA,2PA,2mz,2BA,2py,2MA,2YA,2RA,2RRA,2LA,2xe,2LLLA,2VA,2kf",
     "2qz,2SA,2HA,2TTTA,1ak an gc fk,2CIRCULAR fk,2iv,1cm ak AA,3I,3II,3U,3UU,3cy R,4RR,D46:3E,3EE",
     "3AI,D4A:3O,3OO,3AU,1ak fk,1aa cx REPH,1ak PARA,D54:1aa CHILLU M,3Y,3LLL,1AU mn bi",
     "1ht cr ONE-HUNDRED-AND-SIXTIETH,3FORTIETH,2aw EIGHTIETHS,2cr TWENTIETH,3TENTH,2aw TWENTIETHS",
     "2cr FIFTH,1aa iw II,2cy RR,3LL,1cm ak cy L,4LL,D66:1cs et,2cr,2cj,2aw,2bt,2by,2fu,2bu,2bs,2dj",
     "1dr jo,2cr az,3ba,1ht cr fm,3dd,2aw jh,2cr ta,3ie,2aw yt,1DATE bi,1aa CHILLU NN,3N,3RR,3L,3LL",
     "3K,D81:0SINHALA ak dh,2ANUSVARAYA,2VISARGAYA,D85:1aa AYANNA,2AAYANNA,2AEYANNA,2AEEYANNA",
     "2IYANNA,2IIYANNA,2UYANNA,2UUYANNA,2IRUYANNA,2IRUUYANNA,2ILUYANNA,2ILUUYANNA,2EYANNA,2EEYANNA",
     "2AIYANNA,2OYANNA,2OOYANNA,2AUYANNA,D9A:2kp KAYANNA,2jp KAYANNA,2kp GAYANNA,2jp GAYANNA",
     "2KANTAJA NAASIKYAYA,2SANYAKA GAYANNA,2kp CAYANNA,2jp CAYANNA,2kp JAYANNA,2jp JAYANNA",
     "2TAALUJA NAASIKYAYA,3SANYOOGA NAAKSIKYAYA,2SANYAKA JAYANNA,2kp TTAYANNA,2jp TTAYANNA",
     "2kp DDAYANNA,2jp DDAYANNA,2MUURDHAJA NAYANNA,2SANYAKA DDAYANNA,2kp TAYANNA,2jp TAYANNA",
     "2kp DAYANNA,2jp DAYANNA,2DANTAJA NAYANNA,DB3:2SANYAKA DAYANNA,2kp PAYANNA,2jp PAYANNA",
     "2kp BAYANNA,2jp BAYANNA,2MAYANNA,2AMBA BAYANNA,2YAYANNA,2RAYANNA,DBD:2DANTAJA LAYANNA",
     "DC0:2VAYANNA,2TAALUJA SAYANNA,2MUURDHAJA SAYANNA,2DANTAJA SAYANNA,2HAYANNA,2MUURDHAJA LAYANNA",
     "2FAYANNA,DCA:1ak AL-LAKUNA,DCF:1cm ak AELA-PILLA,3KETTI AEDA-PILLA,3DIGA AEDA-PILLA",
     "3KETTI IS-PILLA,3DIGA IS-PILLA,3KETTI PAA-PILLA,DD6:3DIGA PAA-PILLA,DD8:3GAETTA-PILLA",
     "3KOMBUVA,3DIGA KOMBUVA,3KOMBU DEKA,3KOMBUVA HAA AELA-PILLA,5DIGA AELA-PILLA,5GAYANUKITTA",
     "3GAYANUKITTA,DE6:1LITH cs et,3cr,3cj,3aw,3bt,3by,3fu,3bu,3bs,3dj,DF2:1cm ak DIGA GAETTA-PILLA",
     "4GAYANUKITTA,1cc KUNDDALIYA,E01:0THAI ic KO KAI,2KHO KHAI,3KHUAT,3KHWAI,3KHON,3RAKHANG"],
    ["2NGO NGU,2CHO CHAN,3CHING,3CHANG,2SO SO,2CHO CHOE,2YO YING,2DO CHADA,2TO PATAK,2THO THAN",
     "3NANGMONTHO,3PHUTHAO,2NO NEN,2DO DEK,2TO TAO,2THO THUNG,3THAHAN,3THONG,2NO NU,2BO BAIMAI",
     "2PO PLA,2PHO PHUNG,2FO FA,2PHO PHAN,2FO FAN,2PHO SAMPHAO,2MO MA,2YO YAK,2RO RUA,2RU,2LO LING",
     "2LU,2WO WAEN,2SO SALA,3RUSI,3SUA,2HO HIP,2LO CHULA,2O ANG,2HO NOKHUK,2PAIYANNOI,2SARA A",
     "2MAI HAN-AKAT,2SARA AA,3AM,3I,3II,3UE,3UEE,3U,3UU,2PHINTHU,E3F:1CURRENCY au BAHT,1ic SARA E",
     "3AE,3O,3AI MAIMUAN,4MAIMALAI,2LAKKHANGYAO,2MAIYAMOK,2MAITAIKHU,2MAI EK,3THO,3TRI,3CHATTAWA",
     "2THANTHAKHAT,2NIKHAHIT,2YAMAKKAN,2FONGMAN,1cs et,2cr,2cj,2aw,2bt,2by,2fu,2bu,2bs,2dj",
     "1ic ANGKHANKHU,2KHOMUT,E81:0LAO aa KO,2KHO SUNG,E84:3TAM,E86:2PALI oo,2NGO,2CO,2PALI kz",
     "2SO TAM,E8C:2PALI tf,2NYO,2PALI lb,3nu,3jl,3or,3jx,3pp,2DO,2TO,2THO SUNG,3TAM,2PALI ov,2NO",
     "2BO,2PO,2PHO SUNG,2FO TAM,2PHO TAM,2FO SUNG,2PALI py,2MO,2YO,2LO LING,EA5:3LOOT,EA7:2WO",
     "2SANSKRIT kf,3qz,2SO SUNG,2HO SUNG,2PALI xe,2O,2HO TAM,1qr,1cm ak A,3MAI KAN,3AA,3AM,3I,3II",
     "3Y,3YY,3U,3UU,1ak PALI fk,1cm ak MAI KON,1SEMIVOWEL ak LO,3NYO,EC0:1cm ak E,3EI,3O,3AY,3AI",
     "EC6:1KO LA,EC8:1ff MAI EK,3THO,3TI,3CATAWA,1vr bi,1NIGGAHITA,ED0:1cs et,2cr,2cj,2aw,2bt,2by",
     "2fu,2bu,2bs,2dj,EDC:1HO NO,2MO,1aa KHMU GO,3NYO,F00:0TIBETAN ij OM",
     "1bi GTER YIG MGO TRUNCATED A,5-UM RNAM BCAD MA,6GTER un MA,2ap YIG MGO MDUN MA",
     "2CLOSING YIG MGO SGAB MA,2xk YIG MGO PHUR uu MA,2YIG MGO un uu MA,2SBRUL uu,2BSKUR YIG MGO",
     "2BKA- SHOG YIG MGO,2INTERSYLLABIC un,2DELIMITER un BSTAR,2uu,2NYIS uu,2un uu,2NYIS un uu",
     "2RIN CHEN SPUNGS uu,2RGYA GRAM uu,2xk -DZUD tq ME fj CAN,2GTER un,1LOGOTYPE ak CHAD tq",
     "3LHAG tq,1ASTROLOGICAL ak SGRA GCAN -CHAR tq,3-KHYUD PA,3SDONG TSHUGS,1ak RDEL DKAR GCIG",
     "4GNYIS,4GSUM,3NAG GCIG,4GNYIS,3DKAR RDEL NAG,1cs et,2cr,2cj,2aw,2bt,2by,2fu,2bu,2bs,2dj",
     "2dd cr,3cj,3aw,3bt,3by,3fu,3bu,3bs,3dj,3et,1bi BSDUS tq,2NGAS BZUNG NYI ZLA",
     "2xk -DZUD tq BZHI MIG CAN,2NGAS BZUNG SGOR tq,2CHE MGO,2vu -PHRU,2GUG tq GYON,4GYAS",
     "2ANG KHANG GYON,4GYAS,1ak YAR TSHES,2MAR TSHES,1aa KA,2lf,2GA,2oo,2ke,2CA,2kz,2JA,F49:2lb,2nu",
     "2jl,2or,2jx,2pp,2TA,2lp,2DA,2ov,2NA,2PA,2mz,2BA,2py,2MA,2vu,2wc,2DZA,2DZHA,2WA,2ZHA,2ZA,2-A",
     "2YA,2RA,2LA,2kf,2qz,2SA,2HA,2A,2KSSA,2FIXED-FORM RA,2KKA,2RRA,F71:1cm ak AA,3I,3II,3U,3UU",
     "3cy R,4RR,4L,4LL,3E,3EE,3O,3OO,1ak RJES SU ke RO,2RNAM BCAD,1cm ak bq I,4II",
     "1ak NYI ZLA NAA DA,2SNA LDAN,1bi HALANTA,2PALUTA,1ak LCI tq,2YANG tq,2LCE vu CAN,2MCHU CAN",
     "2GRU CAN RGYINGS,3MED RGYINGS,2cb MCHU CAN,1sy ak LCE vu CAN,3MCHU CAN,3cb MCHU CAN,2aa KA",
     "3lf,3GA,3oo,3ke,3CA,3kz,3JA,F99:3lb,3nu,3jl,3or,3jx,3pp,3TA,3lp,3DA,3ov,3NA,3PA,3mz,3BA,3py",
     "3MA,3vu,3wc,3DZA,3DZHA,3WA,3ZHA,3ZA,3-A,3YA,3RA,3LA,3kf,3qz,3SA,3HA,3A,3KSSA,3FIXED-FORM WA",
     "4YA,4RA,FBE:1KU RU lf,4BZHI MIG CAN,1CANTILLATION ak bl BEAT,3cn BEAT,3CANG TE-U,3SBUB -CHAL",
     "1au DRIL BU,2RDO RJE,2PADMA GDAN,2RDO RJE RGYA GRAM,2PHUR PA,2NOR BU,4NYIS -KHYIL",
     "4GSUM -KHYIL,4BZHI -KHYIL,FCE:1ak RDEL NAG RDEL DKAR,4GSUM,1bi BSKA- SHOG GI MGO RGYAN",
     "2MNYAM YIG GI MGO RGYAN,2NYIS un,2ap BRDA RNYING YIG MGO MDUN MA",
     "2CLOSING BRDA RNYING YIG MGO SGAB MA,0uw SVASTI ak,0xf SVASTI ak,0uw SVASTI ak ab du",
     "0xf SVASTI ak ab du,0TIBETAN bi LEADING MCHAN tq,2TRAILING MCHAN tq,1000:0MYANMAR aa KA,2lf",
     "2GA,2oo,2ke,2CA,2kz,2JA,2tf,2lb,2NNYA,2nu,2jl,2or,2jx,2pp,2TA,2lp,2DA,2ov,2NA,2PA,2mz,2BA,2py",
     "2MA,2YA,2RA,2LA,2WA,2SA,2HA,2xe,2A,2SHAN A,2I,2II,2U,2UU,2E,2MON E,2O,2AU,1cm ak TALL AA,3AA",
     "3I,3II,3U,3UU,3E,3AI,3MON II,4O,3E aj,1ak cv,2cx aq,2ex,2fk,2ASAT,1fq ak cf YA,4RA,4WA,4HA",
     "1aa GREAT SA,1cs et,2cr,2cj,2aw,2bt,2by,2fu,2bu,2bs,2dj,1ak dz hi,2hi,1au LOCATIVE,2COMPLETED",
     "2AFOREMENTIONED,2GENITIVE,1aa kf,2qz,2cy R,3RR,3L,3LL,1cm ak cy R,4RR,4L,4LL,1aa MON ke,3tf",
     "3BBA,3BBE,1fq ak MON cf NA,5MA,5LA,1aa SGAW zn kf,1cm ak SGAW zn EU,1ff bi SGAW zn HATHI",
     "5KE PHO,1aa WESTERN PWO zn lp,5PWA,1cm ak WESTERN PWO zn EU,6UE,1ak WESTERN PWO zn TONE-1,5rw",
     "5ua,5yp,5rv,1aa EASTERN PWO zn pp,5YWA,5GHWA,1cm ak GEBA zn I,3KAYAH OE,4U,4EE,1aa SHAN KA",
     "3lf,3GA,3CA,3ZA,3lb,3DA,3NA,3mz,3FA,3BA,3lp,3HA,1fq ak SHAN cf WA,1cm ak SHAN AA,4E,5aj,4ar Y",
     "1ak SHAN rw,3ua,3rv,3TONE-6,3COUNCIL rw,4ua,4EMPHATIC ff,1aa RUMAI PALAUNG FA",
     "1ak RUMAI PALAUNG rv,1SHAN cs et,3cr,3cj,3aw,3bt,3by,3fu,3bu,3bs,3dj,1ak KHAMTI TONE-1,3ua",
     "1cm ak AITON A,4AI,1au SHAN cr,3dy,0zv ac aa AN,3BAN,3GAN,3DON,3EN,3VIN,3ZEN,3TAN,3IN,3KAN",
     "3LAS,3MAN,3NAR,3ON,3PAR,3ZHAR,3RAE,3SAN,3TAR,3UN,3PHAR,3KHAR,3GHAN,3QAR,3mj,3CHIN,3CAN,3JIL",
     "3CIL,3CHAR,3XAN,3JHAN,3HAE,3HE,3HIE,3WE,3HAR,3HOE,10C7:3YN,10CD:3AEN,10D0:1aa AN,2BAN,2GAN",
     "2DON,2EN,2VIN,2ZEN,2TAN,2IN,2KAN,2LAS,2MAN,2NAR,2ON,2PAR,2ZHAR,2RAE,2SAN,2TAR,2UN,2PHAR,2KHAR",
     "2GHAN,2QAR,2mj,2CHIN,2CAN,2JIL,2CIL,2CHAR,2XAN,2JHAN,2HAE,2HE,2HIE,2WE,2HAR,2HOE,2FI,2YN",
     "2ELIFI,2cg GAN,2ul,1wg ec,0ey aa zv NAR,0zv aa AEN,2HARD ak,2LABIAL ak,0sl CHOSEONG wl,2ww",
     "2NIEUN,2wd,2wv,2RIEUL,2MIEUM,2PIEUP,2yq,2SIOS,2SSANGSIOS,2zq,2CIEUC,2yr,2ti,2te,2sw,2tc",
     "2HIEUH,2NIEUN-KIYEOK,2SSANGNIEUN,2NIEUN-TIKEUT,2NIEUN-PIEUP,2TIKEUT-KIYEOK,2RIEUL-NIEUN",
     "2SSANGRIEUL,2xb,2KAPYEOUNRIEUL,2MIEUM-PIEUP,2KAPYEOUNMIEUM,2PIEUP-KIYEOK,2PIEUP-NIEUN",
     "2PIEUP-TIKEUT,2zb,2PIEUP-SIOS-KIYEOK,2va,2PIEUP-SIOS-PIEUP,2PIEUP-SSANGSIOS,2PIEUP-SIOS-CIEUC",
     "2PIEUP-CIEUC,2PIEUP-CHIEUCH,2PIEUP-THIEUTH,2PIEUP-PHIEUPH,2KAPYEOUNPIEUP,2KAPYEOUNSSANGPIEUP",
     "2SIOS-KIYEOK,2SIOS-NIEUN,2SIOS-TIKEUT,2SIOS-RIEUL,2SIOS-MIEUM,2SIOS-PIEUP,2SIOS-PIEUP-KIYEOK",
     "2SIOS-SSANGSIOS,2SIOS-IEUNG,2SIOS-CIEUC,2SIOS-CHIEUCH,2SIOS-KHIEUKH,2SIOS-THIEUTH",
     "2SIOS-PHIEUPH,2SIOS-HIEUH,2CHITUEUMSIOS,2CHITUEUMSSANGSIOS,2CEONGCHIEUMSIOS",
     "2CEONGCHIEUMSSANGSIOS,2PANSIOS,2IEUNG-KIYEOK,2IEUNG-TIKEUT,2IEUNG-MIEUM,2IEUNG-PIEUP",
     "2IEUNG-SIOS,2IEUNG-PANSIOS,2SSANGIEUNG,2IEUNG-CIEUC,2IEUNG-CHIEUCH,2IEUNG-THIEUTH",
     "2IEUNG-PHIEUPH,2YESIEUNG,2CIEUC-IEUNG,2CHITUEUMCIEUC,2CHITUEUMSSANGCIEUC,2CEONGCHIEUMCIEUC"],
    ["2CEONGCHIEUMSSANGCIEUC,2CHIEUCH-KHIEUKH,2CHIEUCH-HIEUH,2CHITUEUMCHIEUCH,2CEONGCHIEUMCHIEUCH",
     "2PHIEUPH-PIEUP,2xs,2SSANGHIEUH,2YEORINHIEUH,2KIYEOK-TIKEUT,2NIEUN-SIOS,2xd,2xc,2TIKEUT-RIEUL",
     "2uh,1JUNGSEONG uh,2A,2AE,2YA,2YAE,2EO,2E,2YEO,2YE,2O,2WA,2WAE,2OE,2YO,2U,2WEO,2WE,2WI,2YU,2EU",
     "2YI,2I,2A-O,2A-U,2YA-O,2YA-YO,2EO-O,2EO-U,2EO-EU,2YEO-O,2YEO-U,2O-EO,2O-E,2O-YE,2O-O,2O-U",
     "2YO-YA,2YO-YAE,2YO-YEO,2YO-O,2YO-I,2U-A,2U-AE,2U-EO-EU,2U-YE,2U-U,2YU-A,2YU-EO,2YU-E,2YU-YEO",
     "2YU-YE,2YU-U,2YU-I,2EU-U,2EU-EU,2YI-U,2I-A,2I-YA,2I-O,2I-U,2I-EU,2I-ARAEA,2ARAEA,2ARAEA-EO",
     "2ARAEA-U,2ARAEA-I,2SSANGARAEA,2A-EU,2YA-U,2YEO-YA,2O-YA,2O-YAE,1JONGSEONG wl,2ww,2KIYEOK-SIOS",
     "2NIEUN,2xd,2xc,2wd,2RIEUL,2ux,2xa,2wz,2yy,2RIEUL-THIEUTH,2RIEUL-PHIEUPH,2xb,2MIEUM,2PIEUP,2zb",
     "2SIOS,2SSANGSIOS,2zq,2CIEUC,2ti,2te,2sw,2tc,2HIEUH,2KIYEOK-RIEUL,2KIYEOK-SIOS-KIYEOK",
     "2NIEUN-KIYEOK,2NIEUN-TIKEUT,2NIEUN-SIOS,2NIEUN-PANSIOS,2NIEUN-THIEUTH,2TIKEUT-KIYEOK",
     "2TIKEUT-RIEUL,2RIEUL-KIYEOK-SIOS,2RIEUL-NIEUN,2RIEUL-TIKEUT,2RIEUL-TIKEUT-HIEUH,2SSANGRIEUL",
     "2RIEUL-MIEUM-KIYEOK,2RIEUL-MIEUM-SIOS,2RIEUL-PIEUP-SIOS,2RIEUL-PIEUP-HIEUH",
     "2RIEUL-KAPYEOUNPIEUP,2RIEUL-SSANGSIOS,2RIEUL-PANSIOS,2RIEUL-KHIEUKH,2RIEUL-YEORINHIEUH",
     "2MIEUM-KIYEOK,2MIEUM-RIEUL,2MIEUM-PIEUP,2MIEUM-SIOS,2MIEUM-SSANGSIOS,2MIEUM-PANSIOS",
     "2MIEUM-CHIEUCH,2MIEUM-HIEUH,2KAPYEOUNMIEUM,2PIEUP-RIEUL,2PIEUP-PHIEUPH,2PIEUP-HIEUH",
     "2KAPYEOUNPIEUP,2SIOS-KIYEOK,2SIOS-TIKEUT,2SIOS-RIEUL,2SIOS-PIEUP,2PANSIOS,2IEUNG-KIYEOK",
     "2IEUNG-SSANGKIYEOK,2SSANGIEUNG,2IEUNG-KHIEUKH,2YESIEUNG,2YESIEUNG-SIOS,2YESIEUNG-PANSIOS",
     "2PHIEUPH-PIEUP,2xs,2HIEUH-NIEUN,2HIEUH-RIEUL,2HIEUH-MIEUM,2HIEUH-PIEUP,2YEORINHIEUH",
     "2KIYEOK-NIEUN,2KIYEOK-PIEUP,2KIYEOK-CHIEUCH,2KIYEOK-KHIEUKH,2KIYEOK-HIEUH,2SSANGNIEUN",
     "0ETHIOPIC ij HA,2HU,2HI,2HAA,2HEE,2HE,2HO,2HOA,2LA,2LU,2LI,2LAA,2LEE,2LE,2LO,2LWA,2HHA,2HHU",
     "2HHI,2HHAA,2HHEE,2HHE,2HHO,2HHWA,2MA,2MU,2MI,2MAA,2MEE,2ME,2MO,2MWA,2SZA,2SZU,2SZI,2SZAA",
     "2SZEE,2SZE,2SZO,2SZWA,2RA,2RU,2RI,2RAA,2REE,2RE,2RO,2RWA,2SA,2SU,2SI,2SAA,2SEE,2SE,2SO,2SWA",
     "2kf,2SHU,2SHI,2SHAA,2SHEE,2tp,2SHO,2SHWA,2QA,2QU,2QI,2QAA,2QEE,2QE,2QO,2QOA,2QWA,124A:2QWI",
     "2QWAA,2QWEE,2QWE,1250:2QHA,2QHU,2QHI,2QHAA,2QHEE,2QHE,2QHO,1258:2QHWA,125A:2QHWI,2QHWAA",
     "2QHWEE,2QHWE,1260:2BA,2BU,2BI,2BAA,2BEE,2BE,2BO,2BWA,2VA,2VU,2VI,2VAA,2VEE,2VE,2VO,2VWA,2TA",
     "2TU,2TI,2TAA,2TEE,2TE,2TO,2TWA,2CA,2CU,2CI,2CAA,2CEE,2CE,2CO,2CWA,2XA,2XU,2XI,2XAA,2XEE,2XE",
     "2XO,2XOA,2XWA,128A:2XWI,2XWAA,2XWEE,2XWE,1290:2NA,2NU,2NI,2NAA,2NEE,2NE,2NO,2NWA,2lb,2NYU",
     "2NYI,2NYAA,2NYEE,2NYE,2NYO,2NYWA,2gq A,3U,3I,3AA,3EE,3E,3O,3WA,2KA,2KU,2KI,2KAA,2KEE,2KE,2KO",
     "2KOA,2KWA,12B2:2KWI,2KWAA,2KWEE,2KWE,12B8:2KXA,2KXU,2KXI,2KXAA,2KXEE,2KXE,2KXO,12C0:2KXWA",
     "12C2:2KXWI,2KXWAA,2KXWEE,2KXWE,12C8:2WA,2WU,2WI,2WAA,2WEE,2WE,2WO,2WOA,2PHARYNGEAL A,3U,3I",
     "3AA,3EE,3E,3O,12D8:2ZA,2ZU,2ZI,2ZAA,2ZEE,2ZE,2ZO,2ZWA,2ZHA,2ZHU,2ZHI,2ZHAA,2ZHEE,2ZHE,2ZHO",
     "2ZHWA,2YA,2YU,2YI,2YAA,2YEE,2YE,2YO,2YOA,2DA,2DU,2DI,2DAA,2DEE,2DE,2DO,2DWA,2or,2DDU,2DDI",
     "2DDAA,2DDEE,2DDE,2DDO,2DDWA,2JA,2JU,2JI,2JAA,2JEE,2JE,2JO,2JWA,2GA,2GU,2GI,2GAA,2GEE,2GE,2GO",
     "2GOA,2GWA,1312:2GWI,2GWAA,2GWEE,2GWE,1318:2GGA,2GGU,2GGI,2GGAA,2GGEE,2GGE,2GGO,2GGWAA,2lp",
     "2THU,2THI,2THAA,2THEE,2rr,2THO,2THWA,2kz,2CHU,2CHI,2CHAA,2CHEE,2CHE,2CHO,2CHWA,2mz,2PHU,2zc",
     "2PHAA,2PHEE,2PHE,2PHO,2PHWA,2vu,2TSU,2TSI,2TSAA,2TSEE,2TSE,2TSO,2TSWA,2TZA,2TZU,2TZI,2TZAA",
     "2TZEE,2TZE,2TZO,2TZOA,2FA,2FU,2FI,2FAA,2FEE,2FE,2FO,2FWA,2PA,2PU,2PI,2PAA,2PEE,2PE,2PO,2PWA",
     "2RYA,2MYA,2FYA,135D:1dk ug bh cm mn bi,2cm mn bi,2ug bi,1hi bi,1WORDSPACE,1ig gb,1es,1ka,1io",
     "1PREFACE io,1fd bi,1wg ec,1cs cr,2cj,2aw,2bt,2by,2fu,2bu,2bs,2dj,1dr jo,2fl,2jg,2ni,2ik,2oi",
     "2fh,2mp,2fy,2az,2jo ba,1380:1ij SEBATBEIT MWA,2MWI,2MWEE,2MWE,2SEBATBEIT BWA,2BWI,2BWEE,2BWE",
     "2SEBATBEIT FWA,2FWI,2FWEE,2FWE,2SEBATBEIT PWA,2PWI,2PWEE,2PWE,1TONAL bi YIZET,3DERET,3RIKRIK",
     "3fs RIKRIK,3DIFAT,3KENAT,3CHIRET,3HIDET,3DERET-HIDET,3KURT,13A0:0CHEROKEE aa A,2E,2I,2O,2U,2V",
     "2GA,2KA,2GE,2GI,2GO,2GU,2GV,2HA,2HE,2HI,2HO,2HU,2HV,2LA,2LE,2LI,2LO,2LU,2LV,2MA,2ME,2MI,2MO",
     "2MU,2NA,2HNA,2NAH,2NE,2NI,2NO,2NU,2NV,2QUA,2QUE,2QUI,2QUO,2QUU,2QUV,2SA,2S,2SE,2SI,2SO,2SU",
     "2SV,2DA,2TA,2DE,2TE,2DI,2TI,2DO,2DU,2DV,2DLA,2TLA,2TLE,2TLI,2TLO,2TLU,2TLV,2vu,2TSE,2TSI,2TSO",
     "2TSU,2TSV,2WA,2WE,2WI,2WO,2WU,2WV,2YA,2YE,2YI,2YO,2YU,2YV,2MV,13F8:1ad aa YE,3YI,3YO,3YU,3YV",
     "3MV,1400:0CANADIAN SYLLABICS ps,2E,2AAI,2I,2II,2O,2OO,2pm OO,2nr EE,3I,2A,2AA,2WE,2bf WE,2WI",
     "2bf WI,2WII,2bf WII,2WO,2bf WO,2WOO,2bf WOO,2pf WOO,2WA,2bf WA,2WAA,2bf WAA,2pf WAA,2AI,2pm W",
     "2gq gb,2ar db,3ef,3ha dd ei,3qy dd ei,3ai dd ei,3ei,3al db,4fs an STROKES,3bb cx,3fs as at",
     "3cz,3de kw,2EN,2IN,2ON,2AN,2PE,2PAAI,2PI,2PII,2PO,2POO,2pm POO,2nr HEE,3HI,2PA,2PAA,2PWE",
     "2bf PWE,2PWI,2bf PWI,2PWII,2bf PWII,2PWO,2bf PWO,2PWOO,2bf PWOO,2PWA,2bf PWA,2PWAA,2bf PWAA",
     "2pm PWAA,2P,2bf P,2nr H,2TE,2TAAI,2TI,2TII,2TO,2TOO,2pm TOO,2nr DEE,3DI,2TA,2TAA,2TWE,2bf TWE",
     "2TWI,2bf TWI,2TWII,2bf TWII,2cj,2bf cj,2TWOO,2bf TWOO,2TWA,2bf TWA,2TWAA,2bf TWAA,2pf TWAA,2T",
     "2TTE,2TTI,2TTO,2nu,2KE,2KAAI,2KI,2KII,2KO,2KOO,2pm KOO,2KA,2KAA,2KWE,2bf KWE,2KWI,2bf KWI",
     "2KWII,2bf KWII,2KWO,2bf KWO,2KWOO,2bf KWOO,2KWA,2bf KWA,2KWAA,2bf KWAA,2pf KWAA,2K,2KW",
     "2SOUTH-SLAVEY KEH,3KIH,3KOH,3KAH,2CE,2CAAI,2CI,2CII,2CO,2COO,2pm COO,2CA,2CAA,2CWE,2bf CWE",
     "2CWI,2bf CWI,2CWII,2bf CWII,2CWO,2bf CWO,2CWOO,2bf CWOO,2CWA,2bf CWA,2CWAA,2bf CWAA,2pf CWAA",
     "2C,2ue TH,2ME,2MAAI,2MI,2MII,2MO,2MOO,2pm MOO,2MA,2MAA,2MWE,2bf MWE,2MWI,2bf MWI,2MWII",
     "2bf MWII,2MWO,2bf MWO,2MWOO,2bf MWOO,2MWA,2bf MWA,2MWAA,2bf MWAA,2pf MWAA,2M,2bf M,2MH",
     "2ATHAPASCAN M,2ue M,2NE,2NAAI,2NI,2NII,2NO,2NOO,2pm NOO,2NA,2NAA,2NWE,2bf NWE,2NWA,2bf NWA",
     "2NWAA,2bf NWAA,2pf NWAA,2N,2nr NG,2NH,2LE,2LAAI,2LI,2LII,2LO,2LOO,2pm LOO,2LA,2LAA,2LWE",
     "2bf LWE,2LWI,2bf LWI,2LWII,2bf LWII,2LWO,2bf LWO,2LWOO,2bf LWOO,2LWA,2bf LWA,2LWAA,2bf LWAA",
     "2L,2bf L,2cf L,2SE,2SAAI,2SI,2SII,2SO,2SOO,2pm SOO,2SA,2SAA,2SWE,2bf SWE,2SWI,2bf SWI,2SWII",
     "2bf SWII,2SWO,2bf SWO,2SWOO,2bf SWOO,2SWA,2bf SWA,2SWAA,2bf SWAA,2pf SWAA,2S,2ATHAPASCAN S"],
    ["2SW,2BLACKFOOT S,2MOOSE-CREE SK,2pf SKW,3S-W,3SPWA,3STWA,3SKWA,3SCWA,2tp,2SHI,2SHII,2SHO",
     "2SHOO,2kf,2SHAA,2SHWE,2bf SHWE,2SHWI,2bf SHWI,2SHWII,2bf SHWII,2SHWO,2bf SHWO,2SHWOO",
     "2bf SHWOO,2SHWA,2bf SHWA,2SHWAA,2bf SHWAA,2SH,2YE,2YAAI,2YI,2YII,2YO,2YOO,2pm YOO,2YA,2YAA",
     "2YWE,2bf YWE,2YWI,2bf YWI,2YWII,2bf YWII,2YWO,2bf YWO,2YWOO,2bf YWOO,2YWA,2bf YWA,2YWAA",
     "2bf YWAA,2pf YWAA,2Y,2BIBLE-CREE Y,2bf Y,2ue YI,2RE,2R-CREE RE,2bf LE,2RAAI,2RI,2RII,2RO,2ROO",
     "2bf LO,2RA,2RAA,2bf LA,2RWAA,2bf RWAA,2R,2bf R,2cf R,2FE,2FAAI,2FI,2FII,2FO,2FOO,2FA,2FAA",
     "2FWAA,2bf FWAA,2F,2rr,2N-CREE rr,2THI,2N-CREE THI,2THII,2N-CREE THII,2THO,2THOO,2lp,2THAA",
     "2THWAA,2bf THWAA,2TH,2TTHE,2TTHI,2TTHO,2jl,2TTH,2TYE,2TYI,2TYO,2TYA,2NUNAVIK HE,3HI,3HII,3HO",
     "3HOO,3HA,3HAA,3H,2NUNAVUT H,2HK,2QAAI,2QI,2QII,2QO,2QOO,2QA,2QAA,2Q,2TLHE,2TLHI,2TLHO,2TLHA",
     "2bf RE,3RI,3RO,3RA,2NGAAI,2NGI,2NGII,2NGO,2NGOO,2ke,2NGAA,2NG,2NNG,2ue tp,3SHI,3SHO,3kf",
     "2WOODS-CREE rr,3THI,3THO,3lp,3TH,2LHI,2LHII,2LHO,2LHOO,2LHA,2LHAA,2LH,2TH-CREE rr,3THI,3THII",
     "3THO,3THOO,3lp,3THAA,3TH,2AIVILIK B,2BLACKFOOT E,3I,3O,3A,3WE,3WI,3WO,3WA,3NE,3NI,3NO,3NA,3KE",
     "3KI,3KO,3KA,2ue HE,3HI,3HO,3HA,2nr GHU,3GHO,3GHE,3GHEE,3GHI,3oo,3RU,3RO,3RE,3REE,3RI,3RA,3WU",
     "3WO,3WE,3WEE,3WI,3WA,3HWU,3HWO,3HWE,3HWEE,3HWI,3HWA,3THU,3THO,3rr,3THEE,3THI,3lp,3TTU,3TTO",
     "3TTE,3TTEE,3TTI,3nu,3PU,3PO,3PE,3PEE,3PI,3PA,3P,3GU,3GO,3GE,3GEE,3GI,3GA,3KHU,3KHO,3KHE,3KHEE",
     "3KHI,3lf,3KKU,3KKO,3KKE,3KKEE,3KKI,3KKA,3KK,3NU,3NO,3NE,3NEE,3NI,3NA,3MU,3MO,3ME,3MEE,3MI,3MA",
     "3YU,3YO,3YE,3YEE,3YI,3YA,3JU,2ue JU,2nr JO,3JE,3JEE,3JI,2ue JI,2nr JA,3JJU,3JJO,3JJE,3JJEE",
     "3JJI,3JJA,3LU,3LO,3LE,3LEE,3LI,3LA,3DLU,3DLO,3DLE,3DLEE,3DLI,3DLA,3LHU,3LHO,3LHE,3LHEE,3LHI",
     "3LHA,3TLHU,3TLHO,3TLHE,3TLHEE,3TLHI,3TLHA,3TLU,3TLO,3TLE,3TLEE,3TLI,3TLA,3ZU,3ZO,3ZE,3ZEE,3ZI",
     "3ZA,3Z,3ap Z,3DZU,3DZO,3DZE,3DZEE,3DZI,3DZA,3SU,3SO,3SE,3SEE,3SI,3SA,3SHU,3SHO,3tp,3SHEE,3SHI",
     "3kf,3SH,3TSU,3TSO,3TSE,3TSEE,3TSI,3vu,3CHU,3CHO,3CHE,3CHEE,3CHI,3kz,3TTSU,3TTSO,3TTSE,3TTSEE",
     "3TTSI,3TTSA,2CHI ak,2ig gb,2QAI,2NGAI,2NNGI,2NNGII,2NNGO,2NNGOO,2NNGA,2NNGAA",
     "2WOODS-CREE THWEE,3THWI,3THWII,3THWO,3THWOO,3THWA,3THWAA,3ar TH,2BLACKFOOT W,0OGHAM lj bi",
     "1aa BEITH,2LUIS,2FEARN,2SAIL,2NION,2UATH,2DAIR,2TINNE,2COLL,2CEIRT,2MUIN,2GORT,2NGEADAL",
     "2STRAIF,2RUIS,2AILM,2ONN,2UR,2EADHADH,2IODHADH,2EABHADH,2OR,2UILLEANN,2IFIN,2EAMHANCHOLL",
     "2PEITH,1FEATHER bi,1bq FEATHER bi,16A0:0RUNIC aa FEHU FEOH FE F,2V,2URUZ UR U,2YR,2Y,2W",
     "2THURISAZ THURS THORN,2ETH,2ANSUZ A,2OS O,2AC A,2AESC,2LONG-BRANCH-OSS O,2SHORT-TWIG-OSS O,2O",
     "2OE,2ON,2RAIDO RAD REID R,2KAUNA,2CEN,2KAUN K,2G,2ENG,2GEBO GYFU G,2xt,2WUNJO WYNN W",
     "2HAGLAZ H,2HAEGL H,2LONG-BRANCH-HAGALL H,2SHORT-TWIG-HAGALL H,2NAUDIZ NYD NAUD N",
     "2SHORT-TWIG-NAUD N,2DOTTED-N,2ISAZ IS ISS I,2E,2JERAN J,2GER,2LONG-BRANCH-AR AE",
     "2SHORT-TWIG-AR A,2IWAZ EOH,2PERTHO PEORTH P,2ALGIZ EOLHX,2SOWILO S,2SIGEL LONG-BRANCH-SOL S",
     "2SHORT-TWIG-SOL S,2C,2Z,2TIWAZ TIR TYR T,2SHORT-TWIG-TYR T,2D,2BERKANAN BEORC BJARKAN B",
     "2SHORT-TWIG-BJARKAN B,2DOTTED-P,2OPEN-P,2EHWAZ EH E,2MANNAZ MAN M,2LONG-BRANCH-MADR M",
     "2SHORT-TWIG-MADR M,2LAUKAZ LAGU LOGR L,2DOTTED-L,2INGWAZ,2ING,2DAGAZ DAEG D,2OTHALAN ETHEL O",
     "2EAR,2IOR,2CWEORTH,2CALC,2CEALC,2STAN,2LONG-BRANCH-YR,2SHORT-TWIG-YR,2ICELANDIC-YR,2Q,2X",
     "1cw cc,1kl cc,1gs cc,1ARLAUG au,1TVIMADUR au,1BELGTHOR au,1aa K,2SH,2OO,2FRANKS CASKET OS,4IS",
     "4EH,4AC,4AESC,1700:0TAGALOG aa A,2I,2U,2KA,2GA,2ke,2TA,2DA,2NA,2PA,2BA,2MA,2YA,2RA,2LA,2WA",
     "2SA,2HA,1cm ak I,3U,1ak fk,2PAMUDPOD,171F:1aa iw RA,0HANUNOO aa A,2I,2U,2KA,2GA,2ke,2TA,2DA",
     "2NA,2PA,2BA,2MA,2YA,2RA,2LA,2WA,2SA,2HA,1cm ak I,3U,1ak PAMUDPOD,0PHILIPPINE cw cc,1al cc",
     "1740:0BUHID aa A,2I,2U,2KA,2GA,2ke,2TA,2DA,2NA,2PA,2BA,2MA,2YA,2RA,2LA,2WA,2SA,2HA,1cm ak I",
     "3U,1760:0TAGBANWA aa A,2I,2U,2KA,2GA,2ke,2TA,2DA,2NA,2PA,2BA,2MA,2YA,176E:2LA,2WA,2SA",
     "1772:1cm ak I,3U,1780:0KHMER aa KA,2lf,2KO,2KHO,2NGO,2CA,2kz,2CO,2CHO,2NYO,2DA,2jl,2DO,2TTHO",
     "2NNO,2TA,2lp,2TO,2THO,2NO,2BA,2mz,2PO,2PHO,2MO,2YO,2RO,2LO,2VO,2kf,2SSO,2SA,2HA,2LA,2QA",
     "1ln cm QAQ,3QAA,3QI,3QII,3QU,3QUK,3QUU,3QUUV,3RY,3RYY,3LY,3LYY,3QE,3QAI,3QOO TYPE cr,5cj,3QAU",
     "1cm INHERENT AQ,3AA,2ak AA,3I,3II,3Y,3YY,3U,3UU,3UA,3OE,3YA,3IE,3E,3AE,3AI,3OO,3AU",
     "1ak NIKAHIT,2REAHMUK,2YUUKALEAPINTU,2MUUSIKATOAN,2TRIISAP,2BANTOC,2ROBAT,2TOANDAKHIAT",
     "2KAKABAT,2AHSDA,2SAMYOK SANNYA,2VIRIAM,2COENG,2BATHAMASAT,2KHAN,2BARIYOOSAN,2CAMNUC PII KUUH",
     "2LEK TOO,2BEYYAL,2PHNAEK MUAN,2KOOMUUT,1CURRENCY au RIEL,1ak AVAKRAHASANYA,2ATTHACAN",
     "17E0:1cs et,2cr,2cj,2aw,2bt,2by,2fu,2bu,2bs,2dj,17F0:1au LEK ATTAK SON,4MUOY,4PII,4BEI,4BUON",
     "4PRAM,4PRAM-MUOY,4PRAM-PII,4PRAM-BEI,4PRAM-BUON,1800:0MONGOLIAN xl,1qr,1es,1ig gb,1io,1bt du",
     "1TODO xo ps,1SIBE ij BOUNDARY wi,1MANCHU es,2ig gb,1NIRUGU,1FREE wb SELECTOR cr,4cj,4aw",
     "1cm ec,1FREE wb SELECTOR bt,1cs et,2cr,2cj,2aw,2bt,2by,2fu,2bu,2bs,2dj,1820:1aa A,2E,2I,2O,2U",
     "2OE,2UE,2EE,2NA,2ANG,2BA,2PA,2QA,2GA,2MA,2LA,2SA,2kf,2TA,2DA,2kz,2JA,2YA,2RA,2WA,2FA,2KA,2lf",
     "2vu,2ZA,2HAA,2ZRA,2LHA,2ZHI,2CHI,2TODO fj cm ak,3E,3I,3O,3U,3OE,3UE,3ANG,3BA,3PA,3QA,3GA,3MA",
     "3TA,3DA,3kz,3JA,3vu,3YA,3WA,3KA,3GAA,3HAA,3JIA,3NIA,3DZA,2SIBE E,3I,3IY,3UE,3U,3ANG,3KA,3GA",
     "3HA,3PA,3kf,3TA,3DA,3JA,3FA,3GAA,3HAA,3vu,3ZA,3RAA,3kz,3ZHA,2MANCHU I,3KA,3RA,3FA,3ZHA",
     "2kz ab cj du,1880:2ALI GALI cv cr,4ex cr,4DAMARU,4UBADAMA,4cb UBADAMA,4BALUDA,4aw BALUDA,4A",
     "4I,4KA,4ke,4CA,4nu,4jl,4or,4pp,4TA,4DA,4PA,4mz,4qz,4ZHA,4ZA,4AH,2TODO ALI GALI TA,5ZHA",
     "2MANCHU ALI GALI oo,5ke,5CA,5tf,5nu,5jx,5TA,5ov,5qz,5CYA,5ZHA,5ZA,2ALI GALI dd U,5YA",
     "2MANCHU ALI GALI py,2ALI GALI DAGALGA,2MANCHU ALI GALI LHA,18B0:0CANADIAN SYLLABICS OY,2AY",
     "2AAY,2WAY,2POY,2PAY,2PWOY,2TAY,2KAY,2KWAY,2MAY,2NOY,2NAY,2LAY,2SOY,2SAY,2SHOY,2SHAY,2SHWOY",
     "2YOY,2YAY,2RAY,2NWI,2OJIBWAY NWI,2NWII,2OJIBWAY NWII,2NWO,2OJIBWAY NWO,2NWOO,2OJIBWAY NWOO",
     "2RWEE,2RWI,2RWII,2RWO,2RWOO,2RWA,2OJIBWAY P,3T,3K,3C,3M,3N,3S,3SH,2EASTERN W,2WESTERN W",
     "2ar ad ei,3ii cx,2R-CREE RWE,2bf LOO,3LAA,2THWE,2THWA,2TTHWE,2TTHOO,2TTHAA,2TLHWE,2TLHOO"],
    ["2ue SHWE,3SHOO,3HOO,2nr GWU,3DENE GEE,3GAA,3GWA,2ue JUU,2nr JWA,2BEAVER DENE L,4R",
     "2nr DENTAL S,1900:0LIMBU VOWEL-CARRIER aa,1aa KA,2lf,2GA,2oo,2ke,2CA,2kz,2JA,2tf,2YAN,2TA,2lp",
     "2DA,2ov,2NA,2PA,2mz,2BA,2py,2MA,2YA,2RA,2LA,2WA,2kf,2qz,2SA,2HA,2GYAN,2TRA,1920:1cm ak A,3I",
     "3U,3EE,3AI,3OO,3AU,3E,3O,1sy aa YA,3RA,3WA,1930:1ad aa KA,3ke,3cv,3TA,3NA,3PA,3MA,3RA,3LA",
     "1ak MUKPHRENG,2KEMPHRENG,2SA-I,1940:2LOO,1944:1dy bi,1fd bi,1cs et,2cr,2cj,2aw,2bt,2by,2fu",
     "2bu,2bs,2dj,0TAI LE aa KA,3XA,3ke,3vu,3SA,3YA,3TA,3lp,3LA,3PA,3mz,3MA,3FA,3VA,3HA,3QA,3lf,3wc",
     "3NA,3A,3I,3EE,3EH,3U,3OO,3O,3UE,3E,3AUE,3AI,1970:3rw,3ua,3yp,3rv,3TONE-6",
     "1980:0NEW TAI LUE aa fv QA,4in QA,4fv KA,5XA,5ke,4in KA,5XA,5ke,4fv vu,5SA,5YA,4in vu,5SA,5YA",
     "4fv TA,5lp,5NA,4in TA,5lp,5NA,4fv PA,5mz,5MA,4in PA,5mz,5MA,4fv FA,5VA,5LA,4in FA,5VA,5LA",
     "4fv HA,5DA,5BA,4in HA,5DA,5BA,4fv KVA,5XVA,4in KVA,5XVA,4fv SUA,4in SUA",
     "19B0:3cm ak cm SHORTENER,5AA,5II,5U,5UU,5E,5AE,5O,5OA,5UE,5AY,5AAY,5UY,5OY,5OAY,5UEY,5IY",
     "3aa ar V,5NG,5N,5M,5K,5D,5B,3ff MARK-1,4MARK-2,19D0:3cs et,4cr,4cj,4aw,4bt,4by,4fu,4bu,4bs",
     "4dj,3THAM cs cr,19DE:3ak LAE,4LAEV,0KHMER au PATHAMASAT,2MUOY wk,2PII wk,2BEI wk,2BUON wk",
     "2PRAM wk,2PRAM-MUOY wk,2PRAM-PII wk,2PRAM-BEI wk,2PRAM-BUON wk,2DAP wk,2DAP-MUOY wk",
     "2DAP-PII wk,2DAP-BEI wk,2DAP-BUON wk,2DAP-PRAM wk,2TUTEYASAT,2MUOY ROC,2PII ROC,2BEI ROC",
     "2BUON ROC,2PRAM ROC,2PRAM-MUOY ROC,2PRAM-PII ROC,2PRAM-BEI ROC,2PRAM-BUON ROC,2DAP ROC",
     "2DAP-MUOY ROC,2DAP-PII ROC,2DAP-BEI ROC,2DAP-BUON ROC,2DAP-PRAM ROC,0BUGINESE aa KA,2GA,2ke",
     "2NGKA,2PA,2BA,2MA,2MPA,2TA,2DA,2NA,2NRA,2CA,2JA,2lb,2NYCA,2YA,2RA,2LA,2VA,2SA,2A,2HA,1cm ak I",
     "3U,3E,3O,3AE,1A1E:1PALLAWA,1sp OF hi,0TAI THAM aa fv KA,4lf,4KXA,3in KA,4KXA,4lf,3ke,3fv CA",
     "4kz,3in CA,4SA,4kz,3lb,3RATA,3fv RATHA,3DA,3in RATHA,3RANA,3fv TA,4lp,3in TA,4lp,3NA,3BA",
     "3fv PA,4mz,4FA,3in PA,4FA,4mz,3MA,3in YA,3fv YA,3RA,3RUE,3LA,3LUE,3WA,3fv kf,4qz,4SA,4HA,3xe",
     "3A,3in HA,3I,3II,3U,3UU,3EE,3OO,3LAE,3GREAT SA,2fq ak cf RA,5LA,4LA TANG LAI,2ak MAI KANG LAI",
     "2fq ak ar ke,4in PA,4fv RATHA OR in PA,4MA,4BA,4SA,1A60:2ak SAKOT,2cm ak A,4MAI SAT,4AA",
     "4TALL AA,4I,4II,4UE,4UUE,4U,4UU,4O,4OA aq,4OY,4E,4AE,4OO,4AI,4THAM AI,4OA aj,2ak MAI KANG",
     "3TONE-1,3rw,3KHUEN ua,4yp,4rv,3RA HAAM,3MAI SAM,3KHUEN-LUE KARAN,1A7F:2dk jb cx,2HORA cs et",
     "4cr,4cj,4aw,4bt,4by,4fu,4bu,4bs,4dj,1A90:2THAM cs et,4cr,4cj,4aw,4bt,4by,4fu,4bu,4bs,4dj",
     "1AA0:2ak WIANG,3WIANGWAAK,3SAWAN,3KEOW,3HOY,3DOKMAI,3bq cp RANA,3MAI YAMOK,3KAAN,3KAANKUU",
     "3SATKAAN,3SATKAANKUU,3HANG,3CAANG,1AB0:0dk DOUBLED be fw,1DIAERESIS-RING,1vi,1ay ae,1eq cx",
     "1X-X aq,1WIGGLY fz aq,1fg bi aq,1al fg bi aq,1cn sr at aq,1STRONG sr at aq,1PARENTHESES aj",
     "1al PARENTHESES aj,1PARENTHESES aq,2hn,1fo ad aa W aq,4cg W aq,1av ce aj av,1ai ce aj ai",
     "1av ce aq av,1ai ce aq ai,1bn BRACKETS aj,1dr ak aj,1cb al ARCH aj,1cz ak aj,1al cz ak aj,4aq",
     "1eq db fw,1fo ad aa je G,5R,5T,1B00:0BALINESE ak ULU RICEM,3mr,2CECEK,2SURANG,2BISAH",
     "1aa AKARA,3pn,2IKARA,3pn,2UKARA,3pn,2RA REPA,4pn,2LA LENGA,4pn,2EKARA,2AIKARA,2OKARA,3pn,2KA",
     "3nx,2GA,3GORA,2ke,2CA,3LACA,2JA,3JERA,2lb,2TA LATIK,3vb nx,2DA vb ALPAPRANA,4nx,2NA RAMBAT",
     "2TA,3TAWA,2DA,3MADU,2NA,2PA,3KAPAL,2BA,3KEMBANG,2MA,2YA,2RA,2LA,2WA,2SA SAGA,3SAPA,2SA,2HA",
     "1ak REREKAN,1cm ak pn,3ULU,4SARI,3SUKU,4ILUT,3RA REPA,5pn,3LA LENGA,5pn,3TALING,4REPA,4pn",
     "4REPA pn,3PEPET,4pn,1ADEG ADEG,1aa vv SASAK,2KHOT SASAK,2TZIR SASAK,2EF SASAK,2VE SASAK",
     "2ZAL SASAK,2ASYURA SASAK,2iw JNYA,1B50:1cs et,2cr,2cj,2aw,2bt,2by,2fu,2bu,2bs,2dj,1PANTI",
     "1PAMADA,1WINDU,1CARIK PAMUNGKAH,2SIKI,2PAREREN,1PAMENENG,1lu au DONG,3DENG,3DUNG,3DANG",
     "4SURANG,3DING,3DAENG,3DEUNG,3DAING,3DANG GEDE,3dk TEGEH,4ENDEP,4KEMPUL,4KEMPLI,4JEGOGAN",
     "4KEMPUL ab JEGOGAN,4KEMPLI ab JEGOGAN,4BENDE,4GONG,3RIGHT-HAND fg DUG,5DAG,4gn TUK,5TAK",
     "3LEFT-HAND fg PANG,5PUNG,4gn PLAK,5PLUK,4fg PING,1PANTI LANTANG,1PAMADA LANTANG",
     "1B80:0SUNDANESE ak PANYECEK,2PANGLAYAR,2PANGWISAD,1aa A,2I,2U,2AE,2O,2E,2EU,2KA,2QA,2GA,2ke",
     "2CA,2JA,2ZA,2lb,2TA,2DA,2NA,2PA,2FA,2VA,2BA,2MA,2YA,2RA,2LA,2WA,2SA,2XA,2HA,1fq ak PAMINGKAL",
     "3PANYAKRA,3PANYIKU,1cm ak PANGHULU,3PANYUKU,3PANAELAENG,3PANOLONG,3PAMEPET,3PANEULEUNG",
     "1ak PAMAAEH,2fk,1fq ak PASANGAN MA,4WA,1aa lf,2SYA,1cs et,2cr,2cj,2aw,2bt,2by,2fu,2bu,2bs,2dj",
     "1iv,1aa REU,2LEU,2py,2ar K,3M,0BATAK aa A,2js A,2HA,2js HA,2MANDAILING HA,2BA,2KARO BA,2PA",
     "2js PA,2NA,2MANDAILING NA,2WA,2js WA,2PAKPAK WA,2GA,2js GA,2JA,2DA,2RA,2js RA,2MA,2js MA",
     "2SOUTHERN TA,2NORTHERN TA,2SA,2js SA,2MANDAILING SA,2YA,2js YA,2ke,2LA,2js LA,2lb,2CA,2NDA",
     "2MBA,2I,2U,1ak TOMPI,1cm ak E,3PAKPAK E,3EE,3I,3KARO I,3O,3KARO O,3U,4rp js SA,1fq ak NG,3H",
     "1PANGOLAT,1PANONGONAN,1BFC:1au BINDU NA METEK,3PINARBORAS,3JUDUL,3PANGOLAT,0LEPCHA aa KA,2KLA",
     "2lf,2GA,2GLA,2ke,2CA,2kz,2JA,2lb,2TA,2lp,2DA,2NA,2PA,2PLA,2mz,2FA,2FLA,2BA,2BLA,2MA,2MLA,2vu",
     "2wc,2DZA,2YA,2RA,2LA,2HA,2HLA,2VA,2SA,2kf,2WA,2A,1sy aa YA,3RA,1cm ak AA,3I,3O,3OO,3U,3UU,3E",
     "1fq ak K,3M,3L,3N,3P,3R,3T,3NYIN-DO,3KANG,1ak RAN,2kk,1C3B:1cc TA-ROL,2NYET THYOOM TA-ROL",
     "2CER-WA,2TSHOOK CER-WA,2TSHOOK,1cs et,2cr,2cj,2aw,2bt,2by,2fu,2bu,2bs,2dj,1C4D:1aa nu,2jl,2or",
     "0OL CHIKI cs et,3cr,3cj,3aw,3bt,3by,3fu,3bu,3bs,3dj,2aa LA,3AT,3AG,3ANG,3AL,3LAA,3AAK,3AAJ",
     "3AAM,3AAW,3LI,3IS,3IH,3INY,3IR,3LU,3UC,3UD,3UNN,3UY,3LE,3EP,3EDD,3EN,3ERR,3LO,3OTT,3OB,3OV",
     "3OH,2MU TTUDDAG,2GAAHLAA TTUDDAAG,2MU-GAAHLAA TTUDDAAG,2RELAA,2PHAARKAA,2AHAD,2cc MUCAAD",
     "3al MUCAAD,0jy ad aa pc VE,3LONG-LEGGED DE,3NARROW O,3WIDE ES,3TALL TE,3THREE-LEGGED TE",
     "3TALL HARD ak,4YAT,3UNBLENDED UK,1C90:0zv MTAVRULI ac aa AN,4BAN,4GAN,4DON,4EN,4VIN,4ZEN,4TAN",
     "4IN,4KAN,4LAS,4MAN,4NAR,4ON,4PAR,4ZHAR,4RAE,4SAN,4TAR,4UN,4PHAR,4KHAR,4GHAN,4QAR,4mj,4CHIN",
     "4CAN,4JIL,4CIL,4CHAR,4XAN,4JHAN,4HAE,4HE,4HIE,4WE,4HAR,4HOE,4FI,4YN,4ELIFI,4cg GAN,4ul",
     "1CBD:4AEN,4HARD ak,4LABIAL ak,0SUNDANESE cc BINDU SURYA,3PANGLONG,3PURNAMA,3CAKRA",
     "3LEU SATANGA,3KA SATANGA,3DA SATANGA,3BA SATANGA,1CD0:0VEDIC ff KARSHANA,2SHARA,2PRENKHA"],
    ["1ak NIHSHVASA,2YAJURVEDIC MIDLINE oy,1ff YAJURVEDIC AGGRAVATED ln oy,3ln oy,3KATHAKA ln oy",
     "2mr aq,2YAJURVEDIC KATHAKA ln oy SCHROEDER,2al oy,2eq oy,2KATHAKA ANUDATTA,2cx aq,2cj du aq",
     "2aw du aq,2RIGVEDIC KASHMIRI ln oy,2ATHARVAVEDIC ln oy,1ak ex oy,3UDATTA,2bq ex UDATTA",
     "2ex ANUDATTA,2bq ex ANUDATTA,2ex UDATTA ab hp,3ANUDATTA ab hp,2cv ANTARGOMUKHA,3BAHIRGOMUKHA",
     "3VAMAGOMUKHA,4ab hp,2TIRYAK,2HEXIFORM fj cv,2fj cv,2RTHANG fj cv,2cv UBHAYATO MUKHA",
     "2ARDHAVISARGA,2cp ARDHAVISARGA,1ff mr aj,1ak pg,2ox,2ATIKRAMA,1ff ei aj,2al ei aj",
     "1ak al cv ANTARGOMUKHA,1D00:0fo aa ad ac A,4AE,1ad aa cg AE,1aa ad ac su B,4C,4D,4ETH,4E",
     "1ad aa cg fg E,4I,1aa ad ac J,4K,4L ab at,4M,4bq N,4O,4fg O,1ad aa oj O,4fg O,4O ab at,3cg OE",
     "1aa ad ac OU,1ad aa qy dd O,3ha dd O,1aa ad ac P,4bq R,4cg R,4T,4U,1ad aa oj U,4DIAERESIZED U",
     "4cg M,1aa ad ac V,4W,4Z,4EZH,2ru LARYNGEAL SPIRANT,2ul,0kn aa ad ac lo,4rl,4PI,4xp,4PSI",
     "0jy aa ad ac EL,0ey aa ac A,3AE,3B,3su B,3D,3E,3bq E,3G,3H,3I,3J,3K,3L,3M,3N,3bq N,3O,3OU,3P",
     "3R,3T,3U,3W,2ad A,3cg A,3im,3cg AE,3B,3D,3E,3wy,3fg E,3cg fg E,3G,3cg I,3K,3M,3ENG,3O,3fg O",
     "3qy dd O,3ha dd O,3P,3T,3U,3oj U,3cg M,3V,3ul,3ss,3kn lo,3ml,3kn zc,3CHI,0fo qc ad aa I,4R,4U",
     "4V,0kn qc ad aa ss,4lo,4xp,4zc,4CHI,0fo ad aa UE,3B ab bb cq,3D ab bb cq,3F ab bb cq",
     "3M ab bb cq,3N ab bb cq,3P ab bb cq,3R ab bb cq,5so bh bb cq,3S ab bb cq,3T ab bb cq",
     "3Z ab bb cq,3cg G,0ey aa jy EN,0fo ad aa je G,3TH ab STRIKETHROUGH,2ac aa I ab at",
     "2aa ma ab at,3P ab at,2ac aa U ab at,2aa gp ab at,3B ab gh bv,3D ab gh bv,3F ab gh bv",
     "3G ab gh bv,3K ab gh bv,3L ab gh bv,3M ab gh bv,3N ab gh bv,3P ab gh bv,3R ab gh bv",
     "3S ab gh bv,3ESH ab gh bv,3V ab gh bv,3X ab gh bv,3Z ab gh bv,3A ab da bv,3im ab da bv",
     "3D ab bv bh hp,3E ab da bv,3fg E ab da bv,3bq fg E ab da bv,3wy ab da bv,3I ab da bv",
     "3fg O ab da bv,3ESH ab da bv,3U ab da bv,3EZH ab da bv,0ey aa ad cg im,3C,4ab qu,3ETH",
     "3bq fg E,3F,3lc J ab at,3iq G,3cg H,3I ab at,3ma,3ac I,5ab at,3J ab jt,3L ab da bv,5gh bv",
     "3ac L,3M ab bv,3cg M ab fj LEG,3N ab av bv,5da bv,3ac N,3su O,3zc,3S ab bv,3ESH,3T ab gh bv",
     "3U gc,3gp,3ac U,3V ab bv,3cg V,3Z,4ab da bv,5qu,3EZH,3kg,0dk ga ef fw,2db fw,1SNAKE aq",
     "1SUSPENSION bi,1MACRON-ACUTE,1GRAVE-MACRON,1MACRON-GRAVE,1ACUTE-MACRON,1GRAVE-ACUTE-GRAVE",
     "1ACUTE-GRAVE-ACUTE,1fo ad aa R aq,1BREVE-MACRON,1MACRON-BREVE,1al be aj,1mm aj,1vw aq,1IS aq",
     "1UR aj,1US aj,1fo ad aa FLATTENED fg A aj,4AE,4AO,4AV,4C gi,4je D,4ETH,4G,2aa ad ac G",
     "2ad aa K,4L,2aa ad ac L,5M,2ad aa N,2aa ad ac N,5R,2ad aa R ROTUNDA,4S,4fj S,4Z,4im,4B,4ss",
     "4wy,4F,4L ab al bb cq,4O ab cn sr at,4P,4ESH,4U ab cn sr at,4W,4A ab bk,4O ab bk,4U ab bk",
     "1UP kw aj,1KAVYKA aj ai,3av,1cx aj av,1WIDE cb BRIDGE aq,1cx aq av,1DELETION bi,1al cb fe aq",
     "1mh ck TO aq,1av bm aj,1ai bm bh de bm aq,0fo ac aa A ab ei aq,1ad aa A ab ei aq",
     "1ac aa B ab cx aj,1ad aa B ab cx aj,1ac aa B ab cx aq,1ad aa B ab cx aq,1ac aa B ab fz aq",
     "1ad aa B ab fz aq,1ac aa C ab gi bh db,1ad aa C ab gi bh db,1ac aa D ab cx aj",
     "1ad aa D ab cx aj,1ac aa D ab cx aq,1ad aa D ab cx aq,1ac aa D ab fz aq,1ad aa D ab fz aq",
     "1ac aa D ab gi,1ad aa D ab gi,1ac aa D ab be aq,1ad aa D ab be aq,1ac aa E ab dp bh ef",
     "1ad aa E ab dp bh ef,1ac aa E ab dp bh db,1ad aa E ab dp bh db,1ac aa E ab be aq",
     "1ad aa E ab be aq,1ac aa E ab cq aq,1ad aa E ab cq aq,1ac aa E ab gi bh fe",
     "1ad aa E ab gi bh fe,1ac aa F ab cx aj,1ad aa F ab cx aj,1ac aa G ab dp,1ad aa G ab dp",
     "1ac aa H ab cx aj,1ad aa H ab cx aj,1ac aa H ab cx aq,1ad aa H ab cx aq,1ac aa H ab bk",
     "1ad aa H ab bk,1ac aa H ab gi,1ad aa H ab gi,1ac aa H ab fe aq,1ad aa H ab fe aq",
     "1ac aa I ab cq aq,1ad aa I ab cq aq,1ac aa I ab bk bh db,1ad aa I ab bk bh db,1ac aa K ab db",
     "1ad aa K ab db,1ac aa K ab cx aq,1ad aa K ab cx aq,1ac aa K ab fz aq,1ad aa K ab fz aq",
     "1ac aa L ab cx aq,1ad aa L ab cx aq,1ac aa L ab cx aq bh dp,1ad aa L ab cx aq bh dp",
     "1ac aa L ab fz aq,1ad aa L ab fz aq,1ac aa L ab be aq,1ad aa L ab be aq,1ac aa M ab db",
     "1ad aa M ab db,1ac aa M ab cx aj,1ad aa M ab cx aj,1ac aa M ab cx aq,1ad aa M ab cx aq",
     "1ac aa N ab cx aj,1ad aa N ab cx aj,1ac aa N ab cx aq,1ad aa N ab cx aq,1ac aa N ab fz aq",
     "1ad aa N ab fz aq,1ac aa N ab be aq,1ad aa N ab be aq,1ac aa O ab cq bh db",
     "1ad aa O ab cq bh db,1ac aa O ab cq bh bk,1ad aa O ab cq bh bk,1ac aa O ab dp bh ef",
     "1ad aa O ab dp bh ef,1ac aa O ab dp bh db,1ad aa O ab dp bh db,1ac aa P ab db,1ad aa P ab db",
     "1ac aa P ab cx aj,1ad aa P ab cx aj,1ac aa R ab cx aj,1ad aa R ab cx aj,1ac aa R ab cx aq",
     "1ad aa R ab cx aq,1ac aa R ab cx aq bh dp,1ad aa R ab cx aq bh dp,1ac aa R ab fz aq",
     "1ad aa R ab fz aq,1ac aa S ab cx aj,1ad aa S ab cx aj,1ac aa S ab cx aq,1ad aa S ab cx aq",
     "1ac aa S ab db bh cx aj,1ad aa S ab db bh cx aj,1ac aa S ab gt bh cx aj",
     "1ad aa S ab gt bh cx aj,1ac aa S ab cx aq bh cx aj,1ad aa S ab cx aq bh cx aj",
     "1ac aa T ab cx aj,1ad aa T ab cx aj,1ac aa T ab cx aq,1ad aa T ab cx aq,1ac aa T ab fz aq",
     "1ad aa T ab fz aq,1ac aa T ab be aq,1ad aa T ab be aq,1ac aa U ab bk aq,1ad aa U ab bk aq",
     "1ac aa U ab cq aq,1ad aa U ab cq aq,1ac aa U ab be aq,1ad aa U ab be aq,1ac aa U ab cq bh db",
     "1ad aa U ab cq bh db,1ac aa U ab dp bh bk,1ad aa U ab dp bh bk,1ac aa V ab cq,1ad aa V ab cq",
     "1ac aa V ab cx aq,1ad aa V ab cx aq,1ac aa W ab ef,1ad aa W ab ef,1ac aa W ab db",
     "1ad aa W ab db,1ac aa W ab bk,1ad aa W ab bk,1ac aa W ab cx aj,1ad aa W ab cx aj",
     "1ac aa W ab cx aq,1ad aa W ab cx aq,1ac aa X ab cx aj,1ad aa X ab cx aj,1ac aa X ab bk",
     "1ad aa X ab bk,1ac aa Y ab cx aj,1ad aa Y ab cx aj,1ac aa Z ab be,1ad aa Z ab be",
     "1ac aa Z ab cx aq,1ad aa Z ab cx aq,1ac aa Z ab fz aq,1ad aa Z ab fz aq,3H ab fz aq,3T ab bk",
     "3W ab ei aj,3Y ab ei aj,3A ab ai dd ei,3fj S ab cx aj,6dm at,6fv at,1ac aa SHARP S,1ad aa ml"],
    ["1ac aa A ab cx aq,1ad aa A ab cx aq,1ac aa A ab bv aj,1ad aa A ab bv aj,1ac aa A ab be bh db",
     "1ad aa A ab be bh db,1ac aa A ab be bh ef,1ad aa A ab be bh ef,1ac aa A ab be bh bv aj",
     "1ad aa A ab be bh bv aj,1ac aa A ab be bh cq,1ad aa A ab be bh cq,1ac aa A ab be bh cx aq",
     "1ad aa A ab be bh cx aq,1ac aa A ab fe bh db,1ad aa A ab fe bh db,1ac aa A ab fe bh ef",
     "1ad aa A ab fe bh ef,1ac aa A ab fe bh bv aj,1ad aa A ab fe bh bv aj,1ac aa A ab fe bh cq",
     "1ad aa A ab fe bh cq,1ac aa A ab fe bh cx aq,1ad aa A ab fe bh cx aq,1ac aa E ab cx aq",
     "1ad aa E ab cx aq,1ac aa E ab bv aj,1ad aa E ab bv aj,1ac aa E ab cq,1ad aa E ab cq",
     "1ac aa E ab be bh db,1ad aa E ab be bh db,1ac aa E ab be bh ef,1ad aa E ab be bh ef",
     "1ac aa E ab be bh bv aj,1ad aa E ab be bh bv aj,1ac aa E ab be bh cq,1ad aa E ab be bh cq",
     "1ac aa E ab be bh cx aq,1ad aa E ab be bh cx aq,1ac aa I ab bv aj,1ad aa I ab bv aj",
     "1ac aa I ab cx aq,1ad aa I ab cx aq,1ac aa O ab cx aq,1ad aa O ab cx aq,1ac aa O ab bv aj",
     "1ad aa O ab bv aj,1ac aa O ab be bh db,1ad aa O ab be bh db,1ac aa O ab be bh ef",
     "1ad aa O ab be bh ef,1ac aa O ab be bh bv aj,1ad aa O ab be bh bv aj,1ac aa O ab be bh cq",
     "1ad aa O ab be bh cq,1ac aa O ab be bh cx aq,1ad aa O ab be bh cx aq,1ac aa O ab ky bh db",
     "1ad aa O ab ky bh db,1ac aa O ab ky bh ef,1ad aa O ab ky bh ef,1ac aa O ab ky bh bv aj",
     "1ad aa O ab ky bh bv aj,1ac aa O ab ky bh cq,1ad aa O ab ky bh cq,1ac aa O ab ky bh cx aq",
     "1ad aa O ab ky bh cx aq,1ac aa U ab cx aq,1ad aa U ab cx aq,1ac aa U ab bv aj",
     "1ad aa U ab bv aj,1ac aa U ab ky bh db,1ad aa U ab ky bh db,1ac aa U ab ky bh ef",
     "1ad aa U ab ky bh ef,1ac aa U ab ky bh bv aj,1ad aa U ab ky bh bv aj,1ac aa U ab ky bh cq",
     "1ad aa U ab ky bh cq,1ac aa U ab ky bh cx aq,1ad aa U ab ky bh cx aq,1ac aa Y ab ef",
     "1ad aa Y ab ef,1ac aa Y ab cx aq,1ad aa Y ab cx aq,1ac aa Y ab bv aj,1ad aa Y ab bv aj",
     "1ac aa Y ab cq,1ad aa Y ab cq,1ac aa vd LL,1ad aa vd LL,1ac aa vd V,1ad aa vd V",
     "1ac aa Y ab tl,1ad aa Y ab tl,0kn ad aa im ab dx,5dw,5dx bh ep,5dw bh ep,5dx bh hb,5dw bh hb",
     "5dx bh bz,5dw bh bz,1ac aa im ab dx,5dw,5dx bh ep,5dw bh ep,5dx bh hb,5dw bh hb,5dx bh bz",
     "5dw bh bz,1ad aa gx ab dx,5dw,5dx bh ep,5dw bh ep,5dx bh hb,5dw bh hb,1F18:1ac aa gx ab dx",
     "5dw,5dx bh ep,5dw bh ep,5dx bh hb,5dw bh hb,1F20:1ad aa ETA ab dx,5dw,5dx bh ep,5dw bh ep",
     "5dx bh hb,5dw bh hb,5dx bh bz,5dw bh bz,1ac aa ETA ab dx,5dw,5dx bh ep,5dw bh ep,5dx bh hb",
     "5dw bh hb,5dx bh bz,5dw bh bz,1ad aa ma ab dx,5dw,5dx bh ep,5dw bh ep,5dx bh hb,5dw bh hb",
     "5dx bh bz,5dw bh bz,1ac aa ma ab dx,5dw,5dx bh ep,5dw bh ep,5dx bh hb,5dw bh hb,5dx bh bz",
     "5dw bh bz,1ad aa jd ab dx,5dw,5dx bh ep,5dw bh ep,5dx bh hb,5dw bh hb,1F48:1ac aa jd ab dx",
     "5dw,5dx bh ep,5dw bh ep,5dx bh hb,5dw bh hb,1F50:1ad aa gp ab dx,5dw,5dx bh ep,5dw bh ep",
     "5dx bh hb,5dw bh hb,5dx bh bz,5dw bh bz,1F59:1ac aa gp ab dw,1F5B:6bh ep,1F5D:7hb,1F5F:7bz",
     "1ad aa hm ab dx,5dw,5dx bh ep,5dw bh ep,5dx bh hb,5dw bh hb,5dx bh bz,5dw bh bz",
     "1ac aa hm ab dx,5dw,5dx bh ep,5dw bh ep,5dx bh hb,5dw bh hb,5dx bh bz,5dw bh bz",
     "1ad aa im ab ep,5hb,3gx ab ep,5hb,3ETA ab ep,5hb,3ma ab ep,5hb,3jd ab ep,5hb,3gp ab ep,5hb",
     "3hm ab ep,5hb,1F80:3im ab dx bh bx,5dw bh bx,5dx bh ep bh bx,5dw bh ep bh bx,5dx bh hb bh bx",
     "5dw bh hb bh bx,5dx bh bz bh bx,5dw bh bz bh bx,1ac aa im ab dx bh ch,5dw bh ch",
     "5dx bh ep bh ch,5dw bh ep bh ch,5dx bh hb bh ch,5dw bh hb bh ch,5dx bh bz bh ch",
     "5dw bh bz bh ch,1ad aa ETA ab dx bh bx,5dw bh bx,5dx bh ep bh bx,5dw bh ep bh bx",
     "5dx bh hb bh bx,5dw bh hb bh bx,5dx bh bz bh bx,5dw bh bz bh bx,1ac aa ETA ab dx bh ch",
     "5dw bh ch,5dx bh ep bh ch,5dw bh ep bh ch,5dx bh hb bh ch,5dw bh hb bh ch,5dx bh bz bh ch",
     "5dw bh bz bh ch,1ad aa hm ab dx bh bx,5dw bh bx,5dx bh ep bh bx,5dw bh ep bh bx",
     "5dx bh hb bh bx,5dw bh hb bh bx,5dx bh bz bh bx,5dw bh bz bh bx,1ac aa hm ab dx bh ch",
     "5dw bh ch,5dx bh ep bh ch,5dw bh ep bh ch,5dx bh hb bh ch,5dw bh hb bh ch,5dx bh bz bh ch",
     "5dw bh bz bh ch,1ad aa im ab VRACHY,5dp,5ep bh bx,5bx,5hb bh bx,1FB6:5bz,6bh bx",
     "1ac aa im ab VRACHY,5dp,5ep,5hb,5ch,1KORONIS,1ch,1dx,1bz,1ir bh bz,1ad aa ETA ab ep bh bx,5bx",
     "5hb bh bx,1FC6:5bz,6bh bx,1ac aa gx ab ep,5hb,3ETA ab ep,5hb,5ch,1dx bh ep,3hb,3bz",
     "1ad aa ma ab VRACHY,5dp,5ir bh ep,7hb,1FD6:5bz,5ir bh bz,1ac aa ma ab VRACHY,5dp,5ep,5hb",
     "1FDD:1dw bh ep,3hb,3bz,1ad aa gp ab VRACHY,5dp,5ir bh ep,7hb,3xp ab dx,5dw,3gp ab bz",
     "5ir bh bz,1ac aa gp ab VRACHY,5dp,5ep,5hb,3xp ab dw,1ir bh ep,3hb,1ep",
     "1FF2:1ad aa hm ab ep bh bx,5bx,5hb bh bx,1FF6:5bz,6bh bx,1ac aa jd ab ep,5hb,3hm ab ep,5hb",
     "5ch,1hb,1dw,2000:0EN xq,0EM xq,0EN lj,0EM lj,0THREE-PER-EM lj,0FOUR-PER-EM lj,0SIX-PER-EM lj",
     "0FIGURE lj,0cc lj,0THIN lj,0HAIR lj,0et WIDTH lj,2NON-JOINER,2zo,0pq bi,0ts bi,0ps",
     "0NON-BREAKING ps,0FIGURE jn,0EN jn,0EM jn,0as gc,0al an fz,1in fz,0av cw eh bi,0ai cw eh bi",
     "0cw LOW-9 eh bi,1HIGH-REVERSED-9 eh bi,0av al eh bi,0ai al eh bi,0al LOW-9 eh bi",
     "1HIGH-REVERSED-9 eh bi,0DAGGER,0al DAGGER,0nf,0fc nf,0cr cx LEADER,0cj cx LEADER,0as qr",
     "0HYPHENATION rz,0fz ec,0wg ec,0pq EMBEDDING,0ts EMBEDDING,0POP DIRECTIONAL FORMATTING",
     "0pq OVERRIDE,0ts OVERRIDE,0NARROW NO-BREAK lj,0PER MILLE ak,1jo ba ak,0tt,0al tt,0eq tt",
     "0bq tt,1al tt,1eq tt,0xk,0cw ee fp eh bi,1dc fp eh bi,0REFERENCE bi,0al dy bi,0si,0qi",
     "0UNDERTIE,0ic TIE,0xk INSERTION rz,0ASTERISM,0ps nf,0ht oz,0av bn bd ab QUILL",
     "0ai bn bd ab QUILL,0al fd bi,0fd dy bi,0dy fd bi,0TIRONIAN ak ET,0bq PILCROW ak,0ax am nf",
     "1ah nf,0in di,0bq ka,0CLOSE UP,0cj ASTERISKS ALIGNED oe,0ui ng ak,0SWUNG jn,0cb UNDERTIE",
     "0FLOWER cc bi,0aw cx cc,0kq tt,0bt cx cc,0by cx cc,0cj cx cc,0bt cx bi,0ga gs,0TRICOLON",
     "0an bt du,0cd no lj,0wa zo,0FUNCTION APPLICATION,0INVISIBLE br,1ec,1cz,2066:0pq ISOLATE"],
    ["0ts ISOLATE,0zy STRONG ISOLATE,0POP DIRECTIONAL ISOLATE,0INHIBIT SYMMETRIC SWAPPING",
     "0ACTIVATE SYMMETRIC SWAPPING,0INHIBIT ko af SHAPING,0ACTIVATE ko af SHAPING",
     "0NATIONAL cs SHAPES,0NOMINAL cs SHAPES,0hq et,1fo ad aa I,2074:1bt,1by,1fu,1bu,1bs,1dj,1cz ak",
     "1ng,1gm ak,1av ce,1ai ce,1fo ad aa N,0qc et,1cr,1cj,1aw,1bt,1by,1fu,1bu,1bs,1dj,1cz ak,1ng",
     "1gm ak,1av ce,1ai ce,2090:0fo qc ad aa A,4E,4O,4X,4wy,4H,4K,4L,4M,4N,4P,4S,4T",
     "20A0:0EURO-CURRENCY ak,0io ak,0CRUZEIRO ak,0FRENCH FRANC ak,0LIRA ak,0MILL ak,0NAIRA ak",
     "0PESETA ak,0RUPEE ak,0WON ak,0NEW SHEQEL ak,0DONG ak,0EURO ak,0KIP ak,0TUGRIK ak,0DRACHMA ak",
     "0GERMAN PENNY ak,0PESO ak,0GUARANI ak,0AUSTRAL ak,0HRYVNIA ak,0CEDI ak,0LIVRE TOURNOIS ak",
     "0SPESMILO ak,0TENGE ak,0INDIAN RUPEE ak,0TURKISH LIRA ak,0NORDIC bi ak,0MANAT ak,0RUBLE ak",
     "0LARI ak,0BITCOIN ak,0SOM ak,20D0:0dk av df aj,1ai df aj,1fj an fz hn,1fs an fz hn,1eo ae aj",
     "1jk ae aj,1av ae aj,1ai ae aj,1ei hn,1jk ei hn,1eo ei hn,1aw du aj,1bt du aj,1ENCLOSING bo",
     "2bn,2ek,2bo qw,1av ai ae aj,1ENCLOSING SCREEN,2KEYCAP,2UPWARD ca bg,1hz hh hn,1al an at hn",
     "1ANNUITY au,1eq UNDERDOT,1WIDE BRIDGE aj,1am ae hn,1fj al hh hn,1ah df ab em ay",
     "1am df ab em ay,1av ae aq,1ai ae aq,1di aj,2100:0ACCOUNT OF,0ADDRESSED TO rr SUBJECT,0ho ac C",
     "0DEGREE CELSIUS,0ea fz au,0CARE OF,0CADA UNA,0EULER CONSTANT,0SCRUPLE,0DEGREE FAHRENHEIT",
     "0iq ad G,1ac H,0ri ac H,0ho ac H,0PLANCK CONSTANT,2dv cj PI,0iq ac I,0ri ac I,0iq ac L,1ad L",
     "0L B gc au,0ho ac N,0NUMERO ak,0oh RECORDING COPYRIGHT,0iq ac P,0ho ac P,2Q,0iq ac R,0ri ac R",
     "0ho ac R,0PRESCRIPTION TAKE,0RESPONSE,0SERVICE bi,0jz ak,0TRADE bi ak,0VERSICLE,0ho ac Z",
     "0OUNCE ak,0OHM ak,0cb OHM ak,0ri ac Z,0cg kn ad aa ma,0KELVIN ak,0ANGSTROM ak,0iq ac B",
     "0ri ac C,0ESTIMATED au,0iq ad E,1ac E,2F,0cg ac F,0iq ac M,1ad O,0eb au,0BET au,0pj au",
     "0DALET au,0pi SOURCE,0cp ac Q,0FACSIMILE ak,0ho ad PI,2lo,1ac lo,2PI,1N-ARY SUMMATION",
     "0cg ev ac G,3L,0bq ev ac L,0cg ev ac Y,0ho rc ac D,2ad D,3E,3I,3J,0PROPERTY fz,0cg oc,0PER ak",
     "0AKTIESELSKAB,0cg ad F,0au rp SAMARITAN SOURCE,0VULGAR ht cr SEVENTH,3NINTH,3TENTH,3rx,2cj ub",
     "2cr FIFTH,2cj FIFTHS,2aw FIFTHS,2bt FIFTHS,2cr SIXTH,2by SIXTHS,2cr ie,2aw ks,2by ks,2bu ks",
     "0ht NUMERATOR cr,0ROMAN pe cr,2cj,2aw,2bt,2by,2fu,2bu,2bs,2dj,2jo,2pt,2nc,2ik,2cr az,2by az",
     "2cr ba,0ad ROMAN pe cr,3cj,3aw,3bt,3by,3fu,3bu,3bs,3dj,3jo,3pt,3nc,3ik,3cr az,3by az,3cr ba",
     "0ROMAN pe cr ba C D,2by ba,2jo ba,2bq cr az,0fo ad aa bq C,0ROMAN pe fu LATE af,2ik EARLY af",
     "3ba,2cr az ba,0VULGAR ht et ub,0cg cs cj,2aw,2190:0am ae,0bp ae,0ah ae,0ay ae,0av ai ae",
     "0UP de ae,0gg hv ae,1gy ae,0gu gy ae,1hv ae,0am ae ab at,0ah ae ab at,0am pz ae,0ah pz ae",
     "0am cj HEADED ae,0bp cj HEADED ae,0ah cj HEADED ae,0ay cj HEADED ae,0am ae ab hp,0ah ae ab hp",
     "0am ae md gc,0bp ae md gc,0ah ae md gc,0ay ae md gc,0UP de ae ab BASE,0am ae ab bv",
     "0ah ae ab bv,0am ae ab tl,0ah ae ab tl,0av ai pz ae,2ae ab at,0ay vw ae,0bp ae ab TIP am,4ah",
     "0ay ae ab TIP am,4ah,0ah ae ab gz ay,0ay ae ab gz am,0eo qy ud ae,0jk qy ud ae",
     "0gg hv ae TO fj gc,0am ae TO gc dv ah ae TO gc,0eo fg bo ae,0jk fg bo ae,0am df ab em bp,4ay",
     "0bp df ab em ah,4am,0ah df ab em bp,4ay,0ay df ab em ah,4am,0ah ae dv am ae",
     "0bp ae am OF ay ae,0am ae dv ah ae,1wh mg,0bp wh mg,0ah wh mg,0ay wh mg,0am df dv ah df",
     "0ah df dv am df,0am al ae ab at,0av ai al ae ab at,0ah al ae ab at,0am al ae,0bp al ae",
     "0ah al ae,0ay al ae,0av ai al ae,0UP de al ae,0gg hv al ae,1gy al ae,0gu gy al ae,1hv al ae",
     "0am eq ae,0ah eq ae,0am SQUIGGLE ae,0ah SQUIGGLE ae,0bp ae ab al at,0ay ae ab al at,0am os ae",
     "0bp os ae,0ah os ae,0ay os ae,0am ae TO gc,0ah ae TO gc,0am bc ae,0bp bc ae,0ah bc ae",
     "0ay bc ae,0bp bc ae md gc,3ON PEDESTAL,5ab as gc,6an gc,2al ae,4ON PEDESTAL,0ah bc ae md WALL",
     "0gg hv ae TO gz,0gu gy ae TO gz,0UP de bc ae,0ai ae ab ad bo,0ay ae am OF bp ae,0aw ah mg",
     "0am ae ab an at,0ah ae ab an at,0av ai ae ab an at,0am ae ab al an at,0ah ae ab al an at",
     "0av ai ae ab al an at,0am OPEN-HEADED ae,0ah OPEN-HEADED ae,0av ai OPEN-HEADED ae,0rp ALL",
     "0COMPLEMENT,0td nq,0THERE EXISTS,1DOES mi EXIST,0EMPTY SET,0INCREMENT,0NABLA,0pk OF",
     "0mi AN pk OF,0ad pk OF,0qv AS MEMBER,0DOES mi CONTAIN AS MEMBER,0ad qv AS MEMBER,0sp OF PROOF",
     "0N-ARY lr,1COPRODUCT,1SUMMATION,0ng ak,0MINUS-OR-PLUS ak,0cx cz,0qt oz,0SET ng,0di do,0ei do",
     "0nf do,0bn ROOT,0CUBE ROOT,0FOURTH ROOT,0PROPORTIONAL TO,0vi,0ai fp,0fp,0zh fp,0SPHERICAL fp",
     "0DIVIDES,0DOES mi DIVIDE,0qh TO,0mi qh TO,0lx bh,1OR,0fn,0of,0hs,0al hs,0eq hs,0CONTOUR hs",
     "0SURFACE hs,0VOLUME hs,0jk hs,1CONTOUR hs,0eo CONTOUR hs,0THEREFORE,0BECAUSE,0RATIO",
     "0PROPORTION,0cx ng,0EXCESS,0GEOMETRIC PROPORTION,0HOMOTHETIC,0cq do,0bq cq,0cb LAZY S",
     "0SINE pz,0WREATH lr,0mi cq,0ng cq,0ASYMPTOTICALLY ck TO,0mi ASYMPTOTICALLY ck TO,0px ck TO",
     "1BUT mi ACTUALLY ck TO,0NEITHER px NOR ACTUALLY ck TO,0mh ck TO,0mi mh ck TO,0mh ck OR ck TO",
     "0eq cq,0ALL ck TO,0hl TO,0GEOMETRICALLY hl TO,0DIFFERENCE ju,0APPROACHES rr LIMIT",
     "0GEOMETRICALLY ck TO,0px ck TO OR rr zp OF,0zp OF OR px ck TO,0io gm,0gm io,0ei IN ck TO",
     "1ck TO,0CORRESPONDS TO,0ESTIMATES,0EQUIANGULAR TO,0hg gm,0ml ck TO,0ck TO BY DEFINITION",
     "0zh BY,0QUESTIONED ck TO,0mi ck TO,0IDENTICAL TO,0mi IDENTICAL TO,0STRICTLY hl TO",
     "0bw OR ck TO,0bj OR ck TO,0bw dv ck TO,0bj dv ck TO,0bw BUT mi ck TO,0bj BUT mi ck TO",
     "0MUCH bw,1bj,0ju,0mi hl TO,1bw,1bj,0NEITHER bw NOR ck TO,1bj NOR ck TO,0bw OR hl TO",
     "0bj OR hl TO,0NEITHER bw NOR hl TO,1bj NOR hl TO,0bw OR bj,0bj OR bw,0NEITHER bw NOR bj",
     "1bj NOR bw,0kj,0kh,0kj OR ck TO,0kh OR ck TO,0kj OR hl TO,0kh OR hl TO,0DOES mi PRECEDE",
     "2SUCCEED,0ih OF,0gk OF,0mi A ih OF,2gk OF,0ih OF OR ck TO,0gk OF OR ck TO",
     "0NEITHER A ih OF NOR ck TO,2gk OF NOR ck TO,0ih OF ab mi ck TO,0gk OF ab mi ck TO,0MULTISET",
     "1hd,1of,0bn zp OF,1ze OF,1zp OF OR ck TO,1ze OF OR ck TO,1CAP,1CUP,0dl cz,1ng,1br,1qt oz"],
    ["1cx do,1ei do,1di do,1gm,1jn,0ez cz,1ng,1br,1cx do,0ai kw,0av kw,0de kw,0UP kw,0ASSERTION",
     "0MODELS,0TRUE,0FORCES,0eq an gc ai nt,0al an gc al ai nt,0DOES mi PROVE,0mi TRUE",
     "0DOES mi FORCE,0NEGATED al an gc al ai nt,0kj yk RELATION,0kh yk RELATION,0sc qd OF",
     "0qv AS sc qd,0sc qd OF OR ck TO,0qv AS sc qd OR ck TO,0ze OF,0zp OF,0MULTIMAP",
     "0HERMITIAN CONJUGATE MATRIX,0INTERCALATE,0XOR,0NAND,0NOR,0ai fp ab ARC,1bg,0N-ARY lx bh,2OR",
     "1fn,1of,0ek do,0cx do,0hg do,0qt br,0BOWTIE,0av sc FACTOR uc lr,0ai sc FACTOR uc lr,0av uc lr",
     "0ai uc lr,0bq cq gm,0kd lx OR,2bh,0al ih,1gk,1fn,1of,0PITCHFORK,0ck bh qh TO,0bw ab cx",
     "0bj ab cx,0mv MUCH bw,2bj,0bw ck TO OR bj,0bj ck TO OR bw,0ck TO OR bw,3bj,3kj,3kh",
     "0DOES mi PRECEDE OR ck,2SUCCEED OR ck,0mi bn zp OF OR ck TO,2ze OF OR ck TO",
     "0bn zp OF OR mi ck TO,1ze OF OR mi ck TO,0bw BUT mi hl TO,0bj BUT mi hl TO,0kj BUT mi hl TO",
     "0kh BUT mi hl TO,0mi sc qd OF,0DOES mi CONTAIN AS sc qd,0mi sc qd OF OR ck TO",
     "0DOES mi CONTAIN AS sc qd OR ck,0an qr,0MIDLINE as qr,0UP ai dm qr,0de ai dm qr",
     "0pk OF ab fj as at,3an gc AT sp OF as at,0ad pk OF ab an gc AT sp OF as at,0pk OF ab cx aj",
     "3lt,0ad pk OF ab lt,0pk OF ab gd,3cj as STROKES,0qv ab fj as at,2an gc AT sp OF as at",
     "0ad qv ab an gc AT sp OF as at,0qv ab lt,0ad qv ab lt,0Z qk BAG MEMBERSHIP,0DIAMETER ak",
     "0ELECTRIC ae,0HOUSE,0UP bm,0de bm,0PROJECTIVE,0PERSPECTIVE,0WAVY fz,0av rh,0ai rh,0av xg",
     "0ai xg,0ha ai CROP,1av CROP,0qy ai CROP,1av CROP,0bq mi ak,0bn lw,0ARC,0SEGMENT,0SECTOR",
     "0jz RECORDER,0POSITION ny,0VIEWDATA bn,0PLACE OF INTEREST ak,0cg mi ak,0WATCH,0HOURGLASS",
     "0qy av gz,1ai gz,0ha av gz,1ai gz,0qy dd hs,0ha dd hs,0FROWN,0SMILE,0UP bm ju cj as BARS",
     "0OPTION KEY,0ERASE TO rr ai,0X IN A qg xv,0zl,0ee fp bd,0dc fp bd,0ERASE TO rr av,0BENZENE ei",
     "0CYLINDRICITY,0ALL AROUND-PROFILE,0SYMMETRY,0TOTAL RUNOUT,0DIMENSION ORIGIN,0CONICAL TAPER",
     "0SLOPE,0COUNTERBORE,0COUNTERSINK,0APL FUNCTIONAL au I-BEAM,3SQUISH xq,3xq ck,4DIVIDE,4ek,4JOT",
     "4bo,3bo STILE,4JOT,3oz gc,3qw gc,3xq oz,4qw,4bw,4bj,3am VANE,3ah VANE,3xq am ae,4ah ae,3bo qw",
     "3de kw gd,3ml STILE,3xq de xk,4ml,3de kw JOT,3bp VANE,3xq bp ae,3UP kw lt,3DEL STILE",
     "3xq UP xk,4DEL,3UP kw JOT,3ay VANE,3xq ay ae,3QUOTE gd,3ml gd,3ek gd,3JOT gd,3bo gd",
     "3UP SHOE JOT,3QUOTE xq,3bo hg,3xq io,3UP kw bk,3DEL bk,3hg bk,3JOT bk,3bo bk,3de SHOE STILE",
     "3av SHOE STILE,3cq bk,3bj bk,3es gc,3DEL cq,3ZILDE,3STILE cq,3ka gd,3xq mi ck,4fd,3de xk cq",
     "3UP xk cq,3ma,3xp,3hm,3im gd,3gx gd,3ma gd,3hm gd,3im,0mi tz bi,0ai fp ab ay vw ae",
     "0SHOULDERED fg xv,0BELL au,0an fz ab bb cx,0INSERTION au,0CONTINUOUS UNDERLINE au",
     "0DISCONTINUOUS UNDERLINE au,0EMPHASIS au,0COMPOSITION au,0bc bn ab ea an fz,0ENTER au",
     "0ALTERNATIVE KEY au,0HELM au,0dl as gc ab NOTCH,1bg de,0BROKEN bo ab NORTHWEST ae,0UNDO au",
     "0MONOSTABLE au,0HYSTERESIS au,0OPEN-CIRCUIT-OUTPUT H-TYPE au,1L-TYPE au",
     "0PASSIVE-PULL-DOWN-OUTPUT au,0PASSIVE-PULL-UP-OUTPUT au,0DIRECT CURRENT au af cj",
     "0SOFTWARE-FUNCTION au,0APL FUNCTIONAL au xq,0DECIMAL ec KEY au,0PREVIOUS PAGE,0NEXT PAGE",
     "0PRINT SCREEN au,0CLEAR SCREEN au,0av ce dq bv,2nz,2ct bv,0ai ce dq bv,2nz,2ct bv",
     "0av bn bd dq gz,3nz,3ct gz,0ai bn bd dq gz,3nz,3ct gz,0av kd bd dq bv,3bb PIECE,3ct bv",
     "0kd bd nz,0ai kd bd dq bv,3bb PIECE,3ct bv,0hs nz,0as fz nz,0dq av OR ct ai kd bd hi",
     "1ai OR ct av kd bd hi,0SUMMATION qy,1ha,0qy bn bd,0ha bn bd,3dv qy bn bd,0RADICAL au ha",
     "0av an xv fz,0ai an xv fz,0as SCAN LINE-1,2LINE-3,2LINE-7,2LINE-9",
     "0DENTISTRY au cn an bh qy ai,5ha ai,4ab bo,3de bh as ab bo,3UP bh as ab bo,3an ab bg",
     "3de bh as ab bg,3UP bh as ab bg,3an bh pz,3de bh as ab pz,3UP bh as ab pz,3de bh as,3UP bh as",
     "3an bh qy av,5ha av,0bn FOOT,0RETURN au,0EJECT au,0an fz nz,0METRICAL fe,1fj dv fs,1fs dv fj",
     "1fj dv cj SHORTS,1cj SHORTS dv fj,3JOINED,1TRISEME,1TETRASEME,1PENTASEME,0rm GROUND,0FUSE",
     "0qy ce,0ha ce,0qy kd bd,0ha kd bd,0qy if kt bd,0ha if kt bd,0bc TRAPEZIUM,0BENZENE ei ab bo",
     "0STRAIGHTNESS,0FLATNESS,0AC CURRENT,0ELECTRICAL fn,0DECIMAL EXPONENT au,0ax dc al bg",
     "1ee al bg,1hf al bg,1hc al bg,1dc al bg ab an gc,1ee al bg ab an gc,1dc bg ab al an gc",
     "0ALARM CLOCK,0STOPWATCH,0TIMER CLOCK,0HOURGLASS ab FLOWING SAND,0ax cd ee bg,2dc bg,2hf bg",
     "2hc bg,0al an gc,0ax bn rp gb,1bo rp RECORD,0POWER au,1ON-OFF au,1ON au,1SLEEP au",
     "0OBSERVER EYE au,0au rp NULL,2START OF HEADING,4TEXT,2sp OF TEXT,4uo,2ENQUIRY,2xn,2BELL",
     "2BACKSPACE,2as iy,2fz FEED,2an iy,2af FEED,2CARRIAGE RETURN,2SHIFT OUT,3IN,2DATA LINK ESCAPE",
     "2DEVICE rg cr,4cj,4aw,4bt,2is xn,2SYNCHRONOUS IDLE,2sp OF uo eu,2CANCEL,2sp OF cd,2SUBSTITUTE",
     "2ESCAPE,2FILE ec,2GROUP ec,2RECORD ec,2UNIT ec,2lj,2DELETE,0BLANK au,0fg xv,0au rp NEWLINE",
     "2DELETE af cj,2SUBSTITUTE af cj,2440:0OCR bv,1CHAIR,1FORK,1cb FORK,1BELT BUCKLE,1BOW TIE",
     "1BRANCH BANK IDENTIFICATION,1AMOUNT OF tz,1jn,1CUSTOMER ACCOUNT dr,1al qw,2460:0dl cs cr,2cj",
     "2aw,2bt,2by,2fu,2bu,2bs,2dj,1dr jo,2pt,2nc,2qa,2qp,2np,2pa,2nw,2oq,2ql,2fl,0tu cs cr,2cj,2aw",
     "2bt,2by,2fu,2bu,2bs,2dj,1dr jo,2pt,2nc,2qa,2qp,2np,2pa,2nw,2oq,2ql,2fl,0cs cr ig gb,1cj ig gb",
     "1aw ig gb,1bt ig gb,1by ig gb,1fu ig gb,1bu ig gb,1bs ig gb,1dj ig gb,0dr jo ig gb,1pt ig gb",
     "1nc ig gb,1qa ig gb,1qp ig gb,1np ig gb,1pa ig gb,1nw ig gb,1oq ig gb,1ql ig gb,1fl ig gb",
     "0tu fo ad aa A,4B,4C,4D,4E,4F,4G,4H,4I,4J,4K,4L,4M,4N,4O,4P,4Q,4R,4S,4T,4U,4V,4W,4X,4Y,4Z",
     "0dl fo ac aa A,4B,4C,4D,4E,4F,4G,4H,4I,4J,4K,4L,4M,4N,4O,4P,4Q,4R,4S,4T,4U,4V,4W,4X,4Y,4Z",
     "2ad aa A,4B,4C,4D,4E,4F,4G,4H,4I,4J,4K,4L,4M,4N,4O,4P,4Q,4R,4S,4T,4U,4V,4W,4X,4Y,4Z,1cs et",
     "0is dl dr pt,3nc,3qa,3qp,3np,3pa,3nw,3oq,3ql,3fl,0al dl cs cr,3cj,3aw,3bt,3by,3fu,3bu,3bs,3dj",
     "2dr jo,0is dl cs et,0xv DRAWINGS cn as,2bl as,2cn an,2bl an,2cn eq jn as,2bl eq jn as",
     "2cn eq jn an,2bl eq jn an,2cn kq jn as,2bl kq jn as,2cn kq jn an,2bl kq jn an,2cn de bh ai"],
    ["2de cn bh ai bl,3bl bh ai cn,2bl de bh ai,2cn de bh av,2de cn bh av bl,3bl bh av cn",
     "2bl de bh av,2cn UP bh ai,2UP cn bh ai bl,3bl bh ai cn,2bl UP bh ai,2cn UP bh av",
     "2UP cn bh av bl,3bl bh av cn,2bl UP bh av,2cn an bh ai,2an cn bh ai bl,2UP bl bh ai de cn",
     "2de bl bh ai UP cn,2an bl bh ai cn,2de cn bh ai UP bl,2UP cn bh ai de bl,2bl an bh ai",
     "2cn an bh av,2an cn bh av bl,2UP bl bh av de cn,2de bl bh av UP cn,2an bl bh av cn",
     "2de cn bh av UP bl,2UP cn bh av de bl,2bl an bh av,2cn de bh as,2av bl bh ai de cn",
     "2ai bl bh av de cn,2de cn bh as bl,3bl bh as cn,2ai cn bh av de bl,2av cn bh ai de bl",
     "2bl de bh as,2cn UP bh as,2av bl bh ai UP cn,2ai bl bh av UP cn,2UP cn bh as bl,3bl bh as cn",
     "2ai cn bh av UP bl,2av cn bh ai UP bl,2bl UP bh as,2cn an bh as,2av bl bh ai an cn",
     "2ai bl bh av an cn,2an cn bh as bl,2UP bl bh de as cn,2de bl bh UP as cn,2an bl bh as cn",
     "2av UP bl bh ai de cn,2ai UP bl bh av de cn,2av de bl bh ai UP cn,2ai de bl bh av UP cn",
     "2de cn bh UP as bl,2UP cn bh de as bl,2ai cn bh av an bl,2av cn bh ai an bl,2bl an bh as",
     "2cn al jn as,2bl al jn as,2cn al jn an,2bl al jn an,2al as,3an,2de cw bh ai al,3al bh ai cw",
     "2al de bh ai,2de cw bh av al,3al bh av cw,2al de bh av,2UP cw bh ai al,3al bh ai cw",
     "2al UP bh ai,2UP cw bh av al,3al bh av cw,2al UP bh av,2an cw bh ai al,3al bh ai cw",
     "2al an bh ai,2an cw bh av al,3al bh av cw,2al an bh av,2de cw bh as al,3al bh as cw",
     "2al de bh as,2UP cw bh as al,3al bh as cw,2al UP bh as,2an cw bh as al,3al bh as cw",
     "2al an bh as,2cn ARC de bh ai,6av,4UP bh av,6ai,3dm dq ai TO ct av,5av TO ct ai,4gs,3av,3UP",
     "3ai,3de,2bl av,3UP,3ai,3de,2cn av bh bl ai,3UP bh bl de,2bl av bh cn ai,3UP bh cn de",
     "0dq dd eu,0ct cr ie eu,2fm eu,1aw ks eu,1dd eu,1by ks eu,1aw jh eu,1bu ks eu,0ig eu",
     "0av bu ks eu,1aw jh eu,1by ks eu,1dd eu,1aw ks eu,1cr fm eu,2ie eu,0ai dd eu,0cn qe,0cd qe",
     "0DARK qe,0dq cr ie eu,0ai cr ie eu,0ji ct av,2ai,1dq av,3bh ct av bh ct ai,5ai",
     "4dq ai bh ct av,8ai,2ai,3bh ct av,6bh ct ai,0ax bn,0bc bn,2ab pc yf,2ot ax ad bn,0bn ab as xu",
     "2an xu,2ORTHOGONAL CROSSHATCH xu,2dq av TO ct ai xu,3ai TO ct av xu,2dm CROSSHATCH xu",
     "0ax ad bn,0bc ad bn,0ax qg,0bc qg,0ax an qg,0bc an qg,0ax PARALLELOGRAM,0bc PARALLELOGRAM",
     "0ax hf bg,0bc hf bg,0ax hf ad bg,0bc hf ad bg,0ax dc bg,0bc dc bg,0ax dc ad bg,0bc dc ad bg",
     "0ax dc POINTER,0bc dc POINTER,0ax hc bg,0bc hc bg,0ax hc ad bg,0bc hc ad bg,0ax ee bg",
     "0bc ee bg,0ax ee ad bg,0bc ee ad bg,0ax ee POINTER,0bc ee POINTER,0ax ek,0bc ek,2ot ax ad ek",
     "0FISHEYE,0lw,0bc bo,0ga bo,0bo ab an xu,0BULLSEYE,0ax bo,0bo ab av dd ax,2ai dd ax,2ct dd ax",
     "2dq dd ax,3ai ji ax,2ALL BUT dq av ji ax,0av dd ax bo,0ai dd ax bo,0ph nf,1bc bo",
     "0dq dd ph bc bo,0ct dd ph bc bo,0dq av ji CIRCULAR ARC,1ai ji CIRCULAR ARC",
     "0ct ai ji CIRCULAR ARC,1av ji CIRCULAR ARC,0dq dd bo,0ct dd bo,0ax ct ai bg,2av bg,1dq av bg",
     "2ai bg,0bc nf,0bn ab av dd ax,2ai dd ax,2dq av dm dd ax,2ct ai dm dd ax",
     "0bc bn ab an BISECTING fz,1hf bg ab cx,0hf bg ab av dd ax,3ai dd ax,0ed bo,0bc bn ab dq av ji",
     "3ct av ji,4ai ji,3dq ai ji,1bo ab dq av ji,3ct av ji,4ai ji,3dq ai ji,0dq av bg,1ai bg",
     "0ct av bg,0bc cd bn,0ax cd bn,0bc cd ad bn,0ax cd ad bn,0ct ai bg,0ax SUN ab RAYS,0CLOUD,0yl",
     "0SNOWMAN,0COMET,0ax hg,0bc hg,0LIGHTNING,0THUNDERSTORM,0SUN,0ASCENDING NODE,0DESCENDING NODE",
     "0CONJUNCTION,0OPPOSITION,0ax jz,0bc jz,0BALLOT xv,2ab tz,3X,0nm,0yl ab RAIN DROPS",
     "0HOT BEVERAGE,0bc SHOGI PIECE,0ax SHOGI PIECE,0SHAMROCK,0bq cp FLORAL jj nf,0ax av ca ci",
     "1ai ca ci,0bc av ca ci,1UP ca ci,1ai ca ci,1de ca ci,0SKULL bh CROSSBONES,0CAUTION ak",
     "0RADIOACTIVE ak,0BIOHAZARD ak,0CADUCEUS,0ANKH,0ORTHODOX gs,0CHI xp,0gs OF LORRAINE,2JERUSALEM",
     "0hg bh vp,0FARSI au,0ADI SHAKTI,0HAMMER bh SICKLE,0PEACE au,0YIN YANG,0TRIGRAM rp HEAVEN",
     "2LAKE,2FIRE,2THUNDER,2WIND,2rt,2qn,2rm,0WHEEL OF DHARMA,0bc FROWNING ds,1jr ds,0ax jr ds",
     "0bc SUN ab RAYS,0zy fm nn,0LAST fm nn,0MERCURY,0FEMALE ak,0rm,0MALE ak,0JUPITER,0SATURN",
     "0URANUS,0NEPTUNE,0PLUTO,0ARIES,0TAURUS,0GEMINI,0CANCER,0LEO,0VIRGO,0LIBRA,0SCORPIUS",
     "0SAGITTARIUS,0CAPRICORN,0AQUARIUS,0PISCES,0bc ip tm,2pd,2ROOK,2pv,2hr,2PAWN,0ax ip tm,2pd",
     "2ROOK,2pv,2hr,2PAWN,1SPADE SUIT,0bc jj SUIT,1ek SUIT,0ax CLUB SUIT,0bc SPADE SUIT,0ax jj SUIT",
     "1ek SUIT,0bc CLUB SUIT,0HOT SPRINGS,0fm ro,0ie ro,0BEAMED ie NOTES,1ta NOTES,0MUSIC FLAT ak",
     "1NATURAL ak,1SHARP ak,0hv SYRIAC gs,0gy SYRIAC gs,0UNIVERSAL RECYCLING au",
     "0RECYCLING au rp TYPE-1 sa,3TYPE-2 sa,3TYPE-3 sa,3TYPE-4 sa,3TYPE-5 sa,3TYPE-6 sa,3TYPE-7 sa",
     "3GENERIC MATERIALS,0ax UNIVERSAL RECYCLING au,0RECYCLED PAPER au,0PARTIALLY-RECYCLED PAPER au",
     "0PERMANENT PAPER ak,0WHEELCHAIR au,0DIE FACE-1,1FACE-2,1FACE-3,1FACE-4,1FACE-5,1FACE-6",
     "0bc bo ab cx ai,3cj du,0ax bo ab bc cx ai,3cj bc du,0vc rp YANG,2YIN,0DIGRAM rp GREATER YANG",
     "2LESSER YIN,3YANG,2GREATER YIN,0bc FLAG,0ax FLAG,0HAMMER bh PICK,0ANCHOR,0me SWORDS",
     "0STAFF OF AESCULAPIUS,0SCALES,0ALEMBIC,0FLOWER,0GEAR,0STAFF OF HERMES,0ATOM au,0FLEUR-DE-LIS",
     "0sb bc hg,0aw LINES CONVERGING ai,3av,0WARNING ak,0fv VOLTAGE ak,0DOUBLED FEMALE ak,1MALE ak",
     "0INTERLOCKED FEMALE bh MALE ak,0MALE bh FEMALE ak,1ab at ak,3bh MALE bh FEMALE ak",
     "0an MALE ab at ak,0as MALE ab at ak,0cd bc bo,1ax bo,1ad bc bo,0MARRIAGE au,0DIVORCE au",
     "0UNMARRIED PARTNERSHIP au,0COFFIN,0FUNERAL URN,0NEUTER,0CERES,0PALLAS,0JUNO,0VESTA,0CHIRON",
     "0ax nn LILITH,0SEXTILE,0SEMISEXTILE,0QUINCUNX,0SESQUIQUADRATE,0SOCCER BALL,0BASEBALL,0ez KEY",
     "0bc DRAUGHTS MAN,2tm,0ax DRAUGHTS MAN,2tm,0SNOWMAN WITHOUT SNOW,0SUN BEHIND CLOUD,0RAIN",
     "0ax SNOWMAN,0THUNDER CLOUD bh RAIN,0cg bc SHOGI PIECE,1ax SHOGI PIECE,0bc ek IN bn,0er LANES",
     "0DISABLED CAR,0OPHIUCHUS,0PICK,0CAR SLIDING,0HELMET ab bc gs,0dl er LANES,0CHAINS,0NO ENTRY",
     "0fr ONE-WAY av WAY TRAFFIC,0ax TWO-WAY av WAY TRAFFIC,0bc TWO-WAY av WAY TRAFFIC"],
    ["0ax av LANE MERGE,0bc av LANE MERGE,0DRIVE SLOW ak,0bl bc hc bg,0av gn ENTRY,0ez nm",
     "0vn dm IN bc bo IN ax bn,0ax TRUCK,0RESTRICTED av ENTRY-1,2ENTRY-2,0ASTRONOMICAL au rp URANUS",
     "0bl bo ab at bh cj du aj,0PENTAGRAM,0RIGHT-HANDED INTERLACED PENTAGRAM",
     "0LEFT-HANDED INTERLACED PENTAGRAM,0cb PENTAGRAM,0ax gs ON SHIELD,0SHINTO SHRINE,0CHURCH",
     "0CASTLE,0HISTORIC SITE,0GEAR WITHOUT HUB,1ab HANDLES,0MAP au rp LIGHTHOUSE,0qn,0yl ON GROUND",
     "0FOUNTAIN,0FLAG IN HOLE,0FERRY,0SAILBOAT,0bn bt yf,0SKIER,0ICE SKATE,0ls ab BALL,0TENT",
     "0sh BANK au,0HEADSTONE GRAVEYARD au,0FUEL PUMP,0CUP ON ax bn,0bc FLAG ab as bb ax STRIPE",
     "0ax SAFETY uv,0dq BLADE uv,0ax uv,0ct BLADE uv,0bc uv,1bl tz bi,0jz LOCATION ak,0TAPE DRIVE",
     "0sv,0op,0ii FIST,1mc,0VICTORY mc,0WRITING mc,0ct ai PENCIL,0PENCIL,0dq ai PENCIL,0bc NIB",
     "0ax NIB,0tz bi,0bl tz bi,0hd X,0bl hd X,0BALLOT X,0bl BALLOT X,0sb kn gs,0bl kn gs,0fg ea gs",
     "0bl fg ea gs,0fo gs,0ki bc fo gs,0sb fo gs,0MALTESE gs,0hg OF DAVID,0bt jv di",
     "1BALLOON-SPOKED di,0bl bt BALLOON-SPOKED di,0bt CLUB-SPOKED di,0ax bt fa hg,0bc bt fa hg",
     "0SPARKLES,0STRESS sb bc hg,0dl bc hg,0fg ea ax hg,0ax ea bc hg,0sb ax hg,0bl sb ax hg,0ol hg",
     "0ki bc hg,0bl di,0fg ea di,0bs ku di,1fa ax hg,2ol hg,0fu fa ax hg,0bs fa RECTILINEAR ax hg",
     "0bl bs fa RECTILINEAR ax hg,0nc fa ax hg,0pa fa di,0jv di,0fg ea jv di,0bl jv di",
     "0fu PETALLED ax bh bc FLORETTE,0ax FLORETTE,0bc FLORETTE,0bs PETALLED sb ax FLORETTE",
     "0dl fg ea bs fa hg,0bl jv ol di,0SNOWFLAKE,0TIGHT TRIFOLIATE SNOWFLAKE,0bl CHEVRON SNOWFLAKE",
     "0SPARKLE,0bl SPARKLE,0BALLOON-SPOKED di,0bs jv PROPELLER di,0bl bs jv PROPELLER di,0gs bi",
     "0ki bc bo,0is ez gs bi,0ct ai DROP-SHADOWED bc bn,0dq ai DROP-SHADOWED bc bn,0ct ai ki bc bn",
     "0dq ai ki bc bn,0ax fd bi co,0bc fd bi co,1dy bi co,0ax ek ng bc X,0bl dy bi au,0cn an gc",
     "0cd an gc,0bl an gc,1cw cg es eh bi co,2es eh bi co,1al cg es eh bi co,2es eh bi co",
     "1in cw es eh bi co,2al es eh bi co,0rf STEM wg ak co,0bl dy bi co,1jj dy bi co,1ax jj",
     "0cp bl ax jj nf,0FLORAL jj,0cp FLORAL jj nf,0cd av ce co,1ai ce co,1FLATTENED av ce co",
     "2ai ce co,1ee fp bd co,1dc fp bd co,0bl ee fp eh bi co,1dc fp eh bi co,1ee fp bd co",
     "1dc fp bd co,0cn av if kt bd co,1ai if kt bd co,0cd av kd bd co,1ai kd bd co",
     "0DINGBAT is dl cs cr,4cj,4aw,4bt,4by,4fu,4bu,4bs,4dj,3dr jo,1dl ev cs cr,4cj,4aw,4bt,4by,4fu",
     "4bu,4bs,4dj,3dr jo,1is dl ev cs cr,5cj,5aw,5bt,5by,5fu,5bu,5bs,5dj,4dr jo",
     "0bl WIDE-HEADED ah ae,1cz ak,1ng ak,1qt ak,1gu gy ae,1ah ae,1gg gy ae,0DRAFTING rz ah ae",
     "0bl ROUND-TIPPED ah ae,0ao ah ae,0bl ao ah ae,0os ao ah ae,0bl os ao ah ae,0ax ah ae",
     "0THREE-D TOP-LIGHTED ah bm,1BOTTOM-LIGHTED ah bm,0ax ah bm,0bl ax rf ay bh ah ae,3bp bh ah ae",
     "0SQUAT ax ah ae,0bl CONCAVE-POINTED ax ah ae,0RIGHT-SHADED bc ah ae,0LEFT-SHADED bc ah ae",
     "0BACK-TILTED ki bc ah ae,0FRONT-TILTED ki bc ah ae,0bl ct ry bc ah ae,1dq ry bc ah ae",
     "0ra ct ry bc ah ae,0kd tl,0ra dq ry bc ah ae,0dl bl bc ah ae,0WHITE-FEATHERED ah ae",
     "0BLACK-FEATHERED gu gy ae,1ah ae,1gg gy ae,0bl BLACK-FEATHERED gu gy ae,2ah ae,2gg gy ae",
     "0TEARDROP-BARBED ah ae,0bl TEARDROP-SHANKED ah ae,0WEDGE-TAILED ah ae,0bl WEDGE-TAILED ah ae",
     "0OPEN-OUTLINED ah ae,0al kd tl,0aw DIMENSIONAL fp,0bc bg ot ad bc bg,0PERPENDICULAR,0fg ih",
     "1gk,0av S-SHAPED BAG DELIMITER,0ai S-SHAPED BAG DELIMITER,0OR ab cx km,0hz hh PRECEDING ih",
     "0gk PRECEDING hh,0an gc ab as at,0no ok dm,0fj qt,0no vn dm,0ez lx bh,2OR,0bc ek ab tj cx",
     "0bh ab cx,0pk OF OPENING bp,0ct ai gz ab cx,0dq av gz ab cx,0av OUTER JOIN,0ai OUTER JOIN",
     "0ig OUTER JOIN,0ed UP kw,1de kw,0av bh ai al nt,3kw,1MULTIMAP,0fj ai kw,1av kw",
     "0UP kw ab bo aj,0lw DIVIDED BY as RULE,0bc CONCAVE-SIDED ek,3ab am TICK,4ah TICK",
     "1bn ab am TICK,3ah TICK,0no av bc bn bd,1ai bc bn bd,1av fp bd,1ai fp bd,1av al fp bd",
     "1ai al fp bd,1av bc if kt bd,1ai bc if kt bd,1av FLATTENED ce,1ai FLATTENED ce,0bp kq ae",
     "0ay kq ae,0eo GAPPED bo ae,0jk GAPPED bo ae,0ai ae ab dl cz,0fj am ae,1ah ae,1av ai ae",
     "1am al ae,1ah al ae,1av ai al ae,1am ae md gc,1ah ae md gc,1am al ae md gc,1ah al ae md gc",
     "2SQUIGGLE ae,0BRAILLE PATTERN BLANK,2DOTS-1,2DOTS-2,2DOTS-12,2DOTS-3,2DOTS-13,2DOTS-23",
     "2DOTS-123,2DOTS-4,2DOTS-14,2DOTS-24,2DOTS-124,2DOTS-34,2DOTS-134,2DOTS-234,2DOTS-1234,2DOTS-5",
     "2DOTS-15,2DOTS-25,2DOTS-125,2DOTS-35,2DOTS-135,2DOTS-235,2DOTS-1235,2DOTS-45,2DOTS-145",
     "2DOTS-245,2DOTS-1245,2DOTS-345,2DOTS-1345,2DOTS-2345,2DOTS-12345,2DOTS-6,2DOTS-16,2DOTS-26",
     "2DOTS-126,2DOTS-36,2DOTS-136,2DOTS-236,2DOTS-1236,2DOTS-46,2DOTS-146,2DOTS-246,2DOTS-1246",
     "2DOTS-346,2DOTS-1346,2DOTS-2346,2DOTS-12346,2DOTS-56,2DOTS-156,2DOTS-256,2DOTS-1256,2DOTS-356",
     "2DOTS-1356,2DOTS-2356,2DOTS-12356,2DOTS-456,2DOTS-1456,2DOTS-2456,2DOTS-12456,2DOTS-3456",
     "2DOTS-13456,2DOTS-23456,2DOTS-123456,2DOTS-7,2DOTS-17,2DOTS-27,2DOTS-127,2DOTS-37,2DOTS-137",
     "2DOTS-237,2DOTS-1237,2DOTS-47,2DOTS-147,2DOTS-247,2DOTS-1247,2DOTS-347,2DOTS-1347,2DOTS-2347",
     "2DOTS-12347,2DOTS-57,2DOTS-157,2DOTS-257,2DOTS-1257,2DOTS-357,2DOTS-1357,2DOTS-2357",
     "2DOTS-12357,2DOTS-457,2DOTS-1457,2DOTS-2457,2DOTS-12457,2DOTS-3457,2DOTS-13457,2DOTS-23457",
     "2DOTS-123457,2DOTS-67,2DOTS-167,2DOTS-267,2DOTS-1267,2DOTS-367,2DOTS-1367,2DOTS-2367",
     "2DOTS-12367,2DOTS-467,2DOTS-1467,2DOTS-2467,2DOTS-12467,2DOTS-3467,2DOTS-13467,2DOTS-23467",
     "2DOTS-123467,2DOTS-567,2DOTS-1567,2DOTS-2567,2DOTS-12567,2DOTS-3567,2DOTS-13567,2DOTS-23567",
     "2DOTS-123567,2DOTS-4567,2DOTS-14567,2DOTS-24567,2DOTS-124567,2DOTS-34567,2DOTS-134567",
     "2DOTS-234567,2DOTS-1234567,2DOTS-8,2DOTS-18,2DOTS-28,2DOTS-128,2DOTS-38,2DOTS-138,2DOTS-238",
     "2DOTS-1238,2DOTS-48,2DOTS-148,2DOTS-248,2DOTS-1248,2DOTS-348,2DOTS-1348,2DOTS-2348",
     "2DOTS-12348,2DOTS-58,2DOTS-158,2DOTS-258,2DOTS-1258,2DOTS-358,2DOTS-1358,2DOTS-2358",
     "2DOTS-12358,2DOTS-458,2DOTS-1458,2DOTS-2458,2DOTS-12458,2DOTS-3458,2DOTS-13458,2DOTS-23458"],
    ["2DOTS-123458,2DOTS-68,2DOTS-168,2DOTS-268,2DOTS-1268,2DOTS-368,2DOTS-1368,2DOTS-2368",
     "2DOTS-12368,2DOTS-468,2DOTS-1468,2DOTS-2468,2DOTS-12468,2DOTS-3468,2DOTS-13468,2DOTS-23468",
     "2DOTS-123468,2DOTS-568,2DOTS-1568,2DOTS-2568,2DOTS-12568,2DOTS-3568,2DOTS-13568,2DOTS-23568",
     "2DOTS-123568,2DOTS-4568,2DOTS-14568,2DOTS-24568,2DOTS-124568,2DOTS-34568,2DOTS-134568",
     "2DOTS-234568,2DOTS-1234568,2DOTS-78,2DOTS-178,2DOTS-278,2DOTS-1278,2DOTS-378,2DOTS-1378",
     "2DOTS-2378,2DOTS-12378,2DOTS-478,2DOTS-1478,2DOTS-2478,2DOTS-12478,2DOTS-3478,2DOTS-13478",
     "2DOTS-23478,2DOTS-123478,2DOTS-578,2DOTS-1578,2DOTS-2578,2DOTS-12578,2DOTS-3578,2DOTS-13578",
     "2DOTS-23578,2DOTS-123578,2DOTS-4578,2DOTS-14578,2DOTS-24578,2DOTS-124578,2DOTS-34578",
     "2DOTS-134578,2DOTS-234578,2DOTS-1234578,2DOTS-678,2DOTS-1678,2DOTS-2678,2DOTS-12678",
     "2DOTS-3678,2DOTS-13678,2DOTS-23678,2DOTS-123678,2DOTS-4678,2DOTS-14678,2DOTS-24678",
     "2DOTS-124678,2DOTS-34678,2DOTS-134678,2DOTS-234678,2DOTS-1234678,2DOTS-5678,2DOTS-15678",
     "2DOTS-25678,2DOTS-125678,2DOTS-35678,2DOTS-135678,2DOTS-235678,2DOTS-1235678,2DOTS-45678",
     "2DOTS-145678,2DOTS-245678,2DOTS-1245678,2DOTS-345678,2DOTS-1345678,2DOTS-2345678",
     "2DOTS-12345678,0ah jq ae ab an at,4al an at,0am al ae ab an at,0ah al ae ab an at",
     "0av ai al ae ab an at,0ah jq ae md gc,0am al ae md gc,0ah al ae md gc,0ay ae ab as at",
     "0bp ae ab as at,1eq ae,0ay eq ae,0am al jn ae,0ah al jn ae,0am eq jn ae,0ah eq jn ae",
     "1jq eq jn ae,1ae ab ga STEM,0bp ae TO gc,0ay ae TO gc,0ah ae ab hp ab an at,5al an at",
     "1jq ae ab hp,5ab an at,6al an at,0am ARROW-TAIL,0ah ARROW-TAIL,0am al ARROW-TAIL",
     "0ah al ARROW-TAIL,0am ae TO ax ek,0ah ae TO ax ek,0am ae md gc TO ax ek,0ah ae md gc TO ax ek",
     "0gg hv bh gu gy ae,1gy bh gu hv ae,1hv ae ab bv,1gy ae ab bv,0gu gy ae ab bv,1hv ae ab bv",
     "0gg hv ae bh gg gy ae,1gy ae bh gu gy ae,0gu gy ae bh gu hv ae,1hv ae bh gg hv ae",
     "0ok dm er vn dm,0vn dm er ok dm,0gu gy ae er gg gy ae,0gg gy ae er gu gy ae",
     "0vn dm er gg gy ae,0ok dm er gu gy ae,0gg gy ae er gg hv ae,1hv ae er gg gy ae",
     "0pz ae ca DIRECTLY ai,0ae ca ah THEN CURVING bp,5ay,2ay THEN CURVING am,5ah",
     "0RIGHT-SIDE ARC jk ae,0LEFT-SIDE ARC eo ae,0qy ARC eo ae,0ha ARC eo ae,0qy ARC jk ae ab ng",
     "2eo ae ab cz,0ct ai SEMICIRCULAR jk ae,1av SEMICIRCULAR eo ae,0eo gn bo ae,0jk gn bo ae",
     "0ah ae aj fs am ae,0am ae aj fs ah ae,0fs ah ae aj am ae,0ah ae ab cz aq,0am ae ab cz aq",
     "0ah ae la X,0av ai ae la ad bo,0bp jq ae md ad bo,0av em UP ai em de df,2de ai em UP df",
     "0UP em ai de em av df,2av de em ai df,0av em UP ai em UP df,0UP em ai de em ai df",
     "0av em de ai em de df,0UP em av de em av df,0am df ab em UP TO gc,0ah df ab em UP TO gc",
     "0bp df ab em ai TO gc,0ay df ab em ai TO gc,0am df ab em de TO gc,0ah df ab em de TO gc",
     "0bp df ab em av TO gc,0ay df ab em av TO gc,0am df ab em UP md gc,0ah df ab em UP md gc",
     "0bp df ab em ai md gc,0ay df ab em ai md gc,0am df ab em de md gc,0ah df ab em de md gc",
     "0bp df ab em av md gc,0ay df ab em av md gc,0am df ab em UP aj am df ab em de",
     "0bp df ab em av st bp df ab em ai,0ah df ab em UP aj ah df ab em de",
     "0ay df ab em av st ay df ab em ai,0am df ab em UP aj ah df ab em UP,4de aj ah df ab em de",
     "0ah df ab em UP aj am df ab em UP,4de aj am df ab em de,0am df ab em UP aj fj jn,4de aq fj jn",
     "0ah df ab em UP aj fj jn,4de aq fj jn,0bp df ab em av st ay df ab em ai",
     "0ay df ab em av st bp df ab em ai,0ai al ae ab pc sk,0gm ak aj ah ae,0cq do aj ah ae",
     "0am ae aj cq do,0ah ae aj cq do,3mh ck TO,0bw aj am ae,0am ae la bw,0bj aj ah ae,0ih aj ah ae",
     "0am ae la ih,0gk aj am ae,0av FISH hp,0ai FISH hp,0UP FISH hp,0de FISH hp,0eq an gc DELIMITER",
     "0Z qk SPOT,2TYPE io,0av bc kd bd,0ai bc kd bd,0av bc ce,0ai bc ce,0Z qk av zp bd,2ai zp bd",
     "2av BINDING bd,2ai BINDING bd,0av bn bd ab gd,0ai bn bd ab gd,0av bn bd ab TICK IN qy gz",
     "0ai bn bd ab TICK IN ha gz,0av bn bd ab TICK IN ha gz,0ai bn bd ab TICK IN qy gz",
     "0av fp bd ab cx,0ai fp bd ab cx,0av ARC bw bd,0ai ARC bj bd,0al av ARC bj bd,1ai ARC bw bd",
     "0av ax if kt bd,0ai ax if kt bd,0ga FENCE,0an vw fz,0zh fp OPENING av,0ai fp hx ab bn",
     "0zh ai fp ab cx,0fp ab S km,0db fp,0SPHERICAL fp OPENING av,3UP,0cg fp,0bq fp,0fp ab gd",
     "0bq fp ab gd,0kr fp OPENING UP,3de,0zh fp ab fg ARM ENDING IN ae ca UP bh ai,Bav,9de bh ai",
     "Bav,9ai bh UP,9av bh UP,9ai bh de,9av bh de,0bq EMPTY SET,0EMPTY SET ab lt,3ad bo aj",
     "3ai ae aj,3av ae aj,0bo ab as gc,0dl an gc,1qh,1hz hh,1PERPENDICULAR",
     "0bo DIVIDED BY as gc bh qy dd DIVIDED BY an gc,1ab SUPERIMPOSED X",
     "0dl ANTICLOCKWISE-ROTATED qt ak,0UP ae la bo,0dl bc nf,1nf,1bw,1bj,0bo ab ad bo TO rr ai",
     "2cj as STROKES TO rr ai,0ez ok dm oz,1vn dm oz,1di,1ad bo,1bn,0cj JOINED SQUARES,0bg ab cx aj",
     "2gd,0S IN bg,0bg ab SERIFS AT ha,0ai bg aj av bg,0av bg st an gc,0an gc st ai bg",
     "0BOWTIE ab av dd ax,2ai dd ax,0ax BOWTIE,0br ab av dd ax,2ai dd ax,0bc HOURGLASS",
     "0ax HOURGLASS,0av WIGGLY FENCE,0ai WIGGLY FENCE,0av al WIGGLY FENCE,0ai al WIGGLY FENCE",
     "0INCOMPLETE vi,0TIE dv vi,0vi NEGATED ab an gc,0DOUBLE-ENDED MULTIMAP",
     "0bn ab CONTOURED OUTLINE,0INCREASES AS,0SHUFFLE lr,0gm ak bh hy qh,5ab cq aj",
     "0IDENTICAL TO bh hy qh,0GLEICH STARK,0THERMODYNAMIC,0hc bg ab av dd ax,3ai dd ax",
     "0ax ek ab de ae,1lw,0bc bo ab de ae,0ax bo ab de ae,0ERROR-BARRED bc bn,1ax bn,1bc ek,1ax ek",
     "1bc bo,1ax bo,0RULE-DELAYED,0hz hh do,0hh ab lt,0hz hh ab as at,0BIG hh,1hz hh,0al cz,0eq cz",
     "0ee rf fp bd,0dc rf fp bd,0TINY,0MINY,0N-ARY dl cx do,2cz do,2br do,1of do ab cx,4cz",
     "1bn fn do,2of do,0cj lx bh do,2OR do,0N-ARY br do,0MODULO cj SUM,0SUMMATION ab hs,0kq hs do",
     "0FINITE PART hs,0hs ab al at,1AVERAGE ab oz,0CIRCULATION FUNCTION,0eo INTEGRATION"],
    ["0fz INTEGRATION ab RECTANGULAR PATH AROUND POLE,3SEMICIRCULAR PATH AROUND POLE",
     "2mi INCLUDING rr POLE,0hs AROUND A rz do,0QUATERNION hs do,0hs ab am ae ab bv,2br ak,2fn,2of",
     "2lt,2gd,0JOIN,0ed av bg do,0Z qk SCHEMA COMPOSITION,3PIPING,3PROJECTION,0cz ak ab ad bo aj",
     "3be fw aj,3cq aj,3cx aq,3cq aq,3qc cj,3ax bg,0ng ak ab es aj,3cx aq,3vn du,3ok du",
     "0cz ak IN av dd bo,3ai dd bo,0VECTOR OR gs lr,0hd ak ab cx aj,3gd,0uc lr ab ha gn,0SMASH lr",
     "0hd ak IN av dd bo,3ai dd bo,0dl hd ak ab be fw,0hd ak IN al bo,0dl qt ak,0cz ak IN bg",
     "0ng ak IN bg,0hd ak IN bg,0INTERIOR lr,0RIGHTHAND INTERIOR lr,0Z qk RELATIONAL COMPOSITION",
     "0AMALGAMATION OR COPRODUCT,0fn ab cx,0of ab ng ak,2lt,0fn ab lt,2lx bh,0of ab lx OR,1aj fn",
     "0fn aj of,0of aj gc aj fn,0fn aj gc aj of,0of st bh JOINED ab of,0fn st bh JOINED ab fn",
     "0gn of ab SERIFS,1fn ab SERIFS,0al bn fn,2of,0gn of ab SERIFS bh SMASH lr,0lx bh ab cx aj",
     "1OR ab cx aj,0al lx bh,2OR,0cj INTERSECTING lx bh,3OR,0SLOPING ed OR,2bh",
     "0lx OR OVERLAPPING lx bh,1bh ab bb STEM,1OR ab bb STEM,1bh ab as jn,1OR ab as jn,1bh ab al lt",
     "3gd,3al gd,0ad VEE ab gd,0lx OR ab al lt,4gd,0Z qk DOMAIN ANTIRESTRICTION",
     "2RANGE ANTIRESTRICTION,0gm ak ab cx aq,0IDENTICAL ab cx aj,0eq as gc ab al an at,4eq an at",
     "0cq do ab cx aj,3ok du,0us ng us,0CONGRUENT ab cx aj,0gm ab di,0mh ck TO ab be fw",
     "0px ck OR ck TO,0gm ak aj cz ak,0cz ak aj gm ak,0gm ak aj cq do,0al io ck",
     "0cj CONSECUTIVE gm SIGNS,0aw CONSECUTIVE gm SIGNS,0gm ak ab cj du aj bh cj du aq",
     "0hl ab bt du aj,0bw ab bo km,0bj ab bo km,0bw ab fd bi aj,0bj ab fd bi aj,0bw OR hy ck TO",
     "0bj OR hy ck TO,0bw OR hy ck TO ab cx km,0bj OR hy ck TO ab cx km,0bw OR hy ck TO ab cx aj",
     "0bj OR hy ck TO ab cx aj,0bw OR hy ck TO ab cx aj ai,0bj OR hy ck TO ab cx aj av,0bw OR xm",
     "0bj OR xm,0bw bh pb mi ck TO,0bj bh pb mi ck TO,0bw bh mi xm,0bj bh mi xm,0bw aj pl ck aj bj",
     "0bj aj pl ck aj bw,0bw aj us OR ck,0bj aj us OR ck,0bw aj us aj bj,0bj aj us aj bw",
     "0bw aj bj aj pl ck,0bj aj bw aj pl ck,0bw aj hy ck aj bj aj hy ck,0bj aj hy ck aj bw aj hy ck",
     "0hy ck TO OR bw,4bj,4bw ab cx km,4bj ab cx km,0pl ck TO OR bw,4bj,1hy ck TO OR bw,5bj",
     "0us OR bw,2bj,1aj bw aj gm ak,2bj aj gm ak,0al NESTED bw,2bj,2bw ab gd,0bj OVERLAPPING bw",
     "1st bw,0bw gn BY nj,0bj gn BY nj,0bw gn BY nj aj hy ck,0bj gn BY nj aj hy ck,0SMALLER THAN",
     "0LARGER THAN,0SMALLER THAN OR ck TO,0LARGER THAN OR ck TO,0gm ak ab BUMPY aj,0kj aj pb gm ak",
     "0kh aj pb gm ak,0kj aj pb mi ck TO,0kh aj pb mi ck TO,0kj aj gm ak,0kh aj gm ak",
     "0kj aj mi ck TO,0kh aj mi ck TO,0kj aj mh ck TO,0kh aj mh ck TO,0kj aj mi mh ck TO",
     "0kh aj mi mh ck TO,0al kj,1kh,0ih ab cx,0gk ab cx,0ih ab cz ak aq,0gk ab cz ak aq",
     "0ih ab hd ak aq,0gk ab hd ak aq,0ih OF OR ck TO ab cx aj,0gk OF OR ck TO ab cx aj",
     "0ih OF aj gm ak,0gk OF aj gm ak,0ih OF aj cq do,0gk OF aj cq do,0ih OF aj mh ck TO",
     "0gk OF aj mh ck TO,0ih OF aj mi ck TO,0gk OF aj mi ck TO,0bn av fg xv do,1ai fg xv do,0gn ih",
     "1gk,1ih OR ck TO,1gk OR ck TO,0ih aj gk,0gk aj ih,0ih aj ih,0gk aj gk,1st ih",
     "2bh JOINED BY jn ab ih,0pk OF OPENING ay,0PITCHFORK ab TEE qy,0TRANSVERSAL fn,0FORKING",
     "0NONFORKING,0fs av kw,1de kw,1UP kw,0PERPENDICULAR ab S,0an gc eq ai nt,0al an gc av nt",
     "0an gc al av nt,0al an gc al av nt,0fj jn md av MEMBER OF al an,0fs de kw ab lt,1UP kw ab gd",
     "3aj fs de kw,0al de kw,1UP kw,1at mi ak,0bq al at mi ak,0DOES mi DIVIDE ab bq NEGATION oz",
     "0an fz ab bo aj,4aq,0de kw ab bo aq,0qh ab as at,2cq do,0eq an gc BINARY RELATION,3ab as at",
     "1io do,1NESTED bw,2bj,0pl hy bw OR ck TO,2bj OR ck TO,0eq hh BINARY RELATION,0ed eq an gc do",
     "0al hh do,0bc an gc,0N-ARY bc an gc,0gg gy bc ae,1hv bc ae,0gu gy bc ae,1hv bc ae",
     "0av ai bc ae,0am ax ae,0bp ax ae,0ay ax ae,0gg gy ax ae,1hv ax ae,0gu gy ax ae,1hv ax ae",
     "0av ai ax ae,0UP de ax ae,0ah ae ab TIP ay,4bp,0am ae ab TIP ay,4bp,0bn ab qy dd ax,2ha dd ax",
     "2dq ai dm dd ax,2ct av dm dd ax,0ek ab av dd ax,2ai dd ax,2qy dd ax,2ha dd ax,0ga bn",
     "0ax ed bn,0bc ed bn,0ax mv ad bn,0bc mv ad bn,0ax zd,0bc zd,1HEXAGON,0ax HEXAGON",
     "0as ax HEXAGON,0ax ed bo,1cd ek,0bc cd ek,0ax cd lw,0bc cd lw,0ax ad ek,2lw,0bc ad lw",
     "0ax as ELLIPSE,0bc as ELLIPSE,0ax an ELLIPSE,0bc an ELLIPSE,0av ae ab ad bo,0aw am mg",
     "0av ae ab dl cz,0fj am SQUIGGLE ae,0am jq ae ab an at,4al an at,3md gc,2eq jn ae",
     "1ae ab ga STEM,3hp ab an at,5al an at,1jq ae ab hp,5ab an at,6al an at,1ae la X",
     "0pz ae ca DIRECTLY av,0gm ak aj am ae,0hz cq do aj am ae,0am ae aj hz mh ck TO,0ah ae la bj",
     "3gk,0am kq ae,0ah kq ae,0hz cq do aj ah ae,0ah ae aj hz mh ck TO,0cq do aj am ae",
     "0am ae aj mh ck TO,3hz cq do,0ah ae aj hz cq do,0ay ao vw ae,0fs hy gg ae,1BACKSLANTED gu ae",
     "0bc cd hg,0ax ad hg,0bc ad hg,0ax dc zd,0bc dc zd,0bl ed bo,1OVAL ab OVAL km,1bo ab bo km,1bo",
     "1dl nm,0hy gg ae ab HOOKED sk,0BACKSLANTED gu ae ab HOOKED hp,0hy gg ae ab as hp",
     "0BACKSLANTED gu ae ab as hp,0mk ae ca ay THEN gg gy,0fs mk ae ca ay THEN gg gy,0am ao ae",
     "0bp ao ae,0ah ao ae,0ay ao ae,0av ai ao ae,0UP de ao ae,0gg hv ao ae,1gy ao ae,0gu gy ao ae",
     "1hv ao ae,0am ao os ae,0bp ao os ae,0ah ao os ae,0ay ao os ae,0jk ao fg bo ae,0eo ao fg bo ae",
     "0am ao ae TO gc,0bp ao ae TO gc,0ah ao ae TO gc,0ay ao ae TO gc,2B76:0gg hv ao ae TO gc",
     "1gy ao ae TO gc,0gu gy ao ae TO gc,1hv ao ae TO gc,0am ao ae ab al as at",
     "0bp ao ae ab al as at,0ah ao ae ab al as at,0ay ao ae ab al as at,0as TAB KEY,0an TAB KEY",
     "0am ao ae dv ah ao ae,0bp ao ae am OF ay ao ae,0ah ao ae dv am ao ae,0ay ao ae am OF bp ao ae",
     "0am ao wh mg,0bp ao wh mg,0ah ao wh mg,0ay ao wh mg,0am ax dl bc ae,0bp ax dl bc ae",
     "0ah ax dl bc ae,0ay ax dl bc ae,0eo ao ai ym ae,2ha ym ae,2av ym ae,2qy ym ae,0RETURN av,1ai",
     "0NEWLINE av,1ai,0bt gz mg CIRCLING eo,0ah ax ae,2B97:0au rp TYPE A ELECTRONICS"],
    ["0THREE-D TOP-LIGHTED am eg bm,1RIGHT-LIGHTED bp eg bm,1TOP-LIGHTED ah eg bm",
     "1LEFT-LIGHTED ay eg bm,0ax am eg bm,1bp eg bm,1ah eg bm,1ay eg bm,0ay ao ae ab fj TIP am,6ah",
     "0bp ao ae ab fj TIP am,6ah,0am ao ae ab fj TIP bp,0ah ao ae ab fj TIP bp",
     "0am ao ae ab fj TIP ay,0ah ao ae ab fj TIP ay,0ax rf ay bh am ae,4ah ae,2bp bh am ae,4ah ae",
     "2am bh bp ae,2ah bh bp ae,2am bh ay ae,2ah bh ay ae,0RIBBON ae de av,3ai,2UP av,3ai,2av UP",
     "2ai UP,2av de,2ai de,0bp bc ae md gc ab as gc,0UP bm IN A qg xv,0OVERLAPPING bc SQUARES",
     "2bh ax SQUARES,1ax SQUARES,0BALLOT xv ab cn X,0dl X,1ms X,0ax bn tj,1ek tj,0cg ax zd",
     "0as ax OCTAGON,0ax OCTAGON,1cd hf bg tj,2hc bg tj,2ee bg tj,2dc bg tj,0NEPTUNE af cj",
     "0qy dd ax bo,0ha dd ax bo,0cn bt fa ax CUSP,0cp cn bt fa ax CUSP,0bc bt fa CUSP",
     "0cp bc bt fa CUSP,0bn POSITION ny,0UNCERTAINTY ak,0GROUP bi,0PLUTO af cj,2aw,2bt,2by",
     "0TRANSPLUTO,0PROSERPINA,0ASTRAEA,0HYGIEA,0PHOLUS,0NESSUS,0bc nn SELENA,0ax ek ON gs",
     "0TRUE cn nn ARTA,0CUPIDO,0HADES,0ZEUS,0KRONOS,0APOLLON,0ADMETOS,0VULCANUS,0POSEIDON",
     "0av dd ax hg,0ai dd ax hg,0hg ab av dd ax,2ai dd ax,0am jq ae ab bg ARROWHEADS",
     "0bp jq ae ab bg ARROWHEADS,0ah jq ae ab bg ARROWHEADS,0ay jq ae ab bg ARROWHEADS,0ERIS af cr",
     "2cj,0SEDNA,0RUSSIAN ASTROLOGICAL au VIGINTILE,3NOVILE,3QUINTILE,3BINOVILE,3SENTAGON",
     "3TREDECILE,0gm ak ab vi aq,0UNITED au,0SEPARATED au,0DOUBLED au,0PASSED au,0bq ai fp",
     "0HELLSCHREIBER PAUSE au,0GLAGOLITIC ac aa AZU,3BUKY,3VEDE,3GLAGOLI,3DOBRO,3YESTU,3ZHIVETE",
     "3DZELO,3ZEMLJA,3IZHE,3ap IZHE,3I,3DJERVI,3KAKO,3LJUDIJE,3MYSLITE,3NASHI,3ONU,3POKOJI,3RITSI",
     "3SLOVO,3TVRIDO,3UKU,3FRITU,3HERU,3OTU,3PE,3SHTA,3TSI,3CHRIVI,3kf,3YERU,3YERI,3YATI",
     "3SPIDERY HA,3YU,3ad vy,5ab hp,3YO,3ya ad vy,3BIG vy,3ya BIG vy,3FITA,3xz,3SHTAPIC",
     "3TROKUTASTI A,3LATINATE MYSLITE,3CAUDATE CHRIVI,1ad aa AZU,3BUKY,3VEDE,3GLAGOLI,3DOBRO,3YESTU",
     "3ZHIVETE,3DZELO,3ZEMLJA,3IZHE,3ap IZHE,3I,3DJERVI,3KAKO,3LJUDIJE,3MYSLITE,3NASHI,3ONU,3POKOJI",
     "3RITSI,3SLOVO,3TVRIDO,3UKU,3FRITU,3HERU,3OTU,3PE,3SHTA,3TSI,3CHRIVI,3kf,3YERU,3YERI,3YATI",
     "3SPIDERY HA,3YU,3ad vy,5ab hp,3YO,3ya ad vy,3BIG vy,3ya BIG vy,3FITA,3xz,3SHTAPIC",
     "3TROKUTASTI A,3LATINATE MYSLITE,3CAUDATE CHRIVI,0fo ac aa L ab al gc,1ad aa L ab al gc",
     "1ac aa L ab bb cq,3P ab at,3R ab hp,1ad aa A ab at,3T ab dm at,1ac aa H ab dg,1ad aa H ab dg",
     "1ac aa K ab dg,1ad aa K ab dg,1ac aa Z ab dg,1ad aa Z ab dg,1ac aa im,3M ab bv,3cg A,4im",
     "1ad aa V ab ai bv,1ac aa W ab bv,1ad aa W ab bv,3V ab qu,1ac aa dd H,1ad aa dd H,3TAILLESS zc",
     "3E ab NOTCH,3cg R ab hp,3O ab in ei km,1aa ad ac cg E,1qc ad aa J,0ey aa ac V",
     "0fo ac aa S ab SWASH hp,3Z ab SWASH hp,0il ac aa ALFA,1ad aa ALFA,1ac aa VIDA,1ad aa VIDA",
     "1ac aa lo,1ad aa lo,1ac aa DALDA,1ad aa DALDA,1ac aa EIE,1ad aa EIE,1ac aa SOU,1ad aa SOU",
     "1ac aa ZATA,1ad aa ZATA,1ac aa HATE,1ad aa HATE,1ac aa THETHE,1ad aa THETHE,1ac aa IAUDA",
     "1ad aa IAUDA,1ac aa KAPA,1ad aa KAPA,1ac aa LAULA,1ad aa LAULA,1ac aa MI,1ad aa MI,1ac aa NI",
     "1ad aa NI,1ac aa KSI,1ad aa KSI,1ac aa O,1ad aa O,1ac aa PI,1ad aa PI,1ac aa RO,1ad aa RO",
     "1ac aa SIMA,1ad aa SIMA,1ac aa TAU,1ad aa TAU,1ac aa UA,1ad aa UA,1ac aa FI,1ad aa FI",
     "1ac aa KHI,1ad aa KHI,1ac aa PSI,1ad aa PSI,1ac aa OOU,1ad aa OOU,1ac aa oa eb,1ad aa oa eb",
     "1ac aa nb il ul,1ad aa nb il ul,1ac aa jb EIE,1ad aa jb EIE,1ac aa oa KAPA,1ad aa oa KAPA",
     "1ac aa oa NI,1ad aa oa NI,1ac aa jb NI,1ad aa jb NI,1ac aa nb il OOU,1ad aa nb il OOU",
     "1ac aa SAMPI,1ad aa SAMPI,1ac aa me SHEI,1ad aa me SHEI,1ac aa nb il SHEI,1ad aa nb il SHEI",
     "1ac aa nb il ESH,1ad aa nb il ESH,1ac aa AKHMIMIC KHEI,1ad aa AKHMIMIC KHEI,1ac aa oa HORI",
     "1ad aa oa HORI,1ac aa nb il HORI,1ad aa nb il HORI,1ac aa nb il HA,1ad aa nb il HA",
     "1ac aa L-SHAPED HA,1ad aa L-SHAPED HA,1ac aa nb il HEI,1ad aa nb il HEI,1ac aa nb il HAT",
     "1ad aa nb il HAT,1ac aa nb il GANGIA,1ad aa nb il GANGIA,1ac aa nb il DJA,1ad aa nb il DJA",
     "1ac aa nb il SHIMA,1ad aa nb il SHIMA,1ac aa nb uf SHIMA,1ad aa nb uf SHIMA,1ac aa nb uf NGI",
     "1ad aa nb uf NGI,1ac aa nb uf NYI,1ad aa nb uf NYI,1ac aa nb uf WAU,1ad aa nb uf WAU,1au KAI",
     "2MI RO,2PI RO,2STAUROS,2TAU RO,2KHI RO,2SHIMA SIMA,1ac aa jb SHEI,1ad aa jb SHEI",
     "1ac aa jb GANGIA,1ad aa jb GANGIA,1dk NI aj,2SPIRITUS ASPER,3LENIS,1ac aa BOHAIRIC KHEI",
     "1ad aa BOHAIRIC KHEI,2CF9:1nb uf ig gb,3DIRECT fd bi,3INDIRECT fd bi,3VERSE yd,1ht cr dd",
     "1ig gb,1MORPHOLOGICAL yd,0zv ad aa AN,3BAN,3GAN,3DON,3EN,3VIN,3ZEN,3TAN,3IN,3KAN,3LAS,3MAN",
     "3NAR,3ON,3PAR,3ZHAR,3RAE,3SAN,3TAR,3UN,3PHAR,3KHAR,3GHAN,3QAR,3mj,3CHIN,3CAN,3JIL,3CIL,3CHAR",
     "3XAN,3JHAN,3HAE,3HE,3HIE,3WE,3HAR,3HOE,2D27:3YN,2D2D:3AEN,2D30:0TIFINAGH aa YA,2YAB,2YABH",
     "2YAG,2YAGHH,2BERBER ACADEMY YAJ,2YAJ,2YAD,2YADH,2YADD,2YADDH,2YEY,2YAF,2YAK,2yn YAK,2YAKHH",
     "2YAH,2BERBER ACADEMY YAH,2yn YAH,2YAHH,2YAA,2YAKH,2yn YAKH,2YAQ,2yn YAQ,2YI,2YAZH",
     "2AHAGGAR YAZH,2yn YAZH,2YAL,2YAM,2YAN,2yn YAGN,3YANG,2YAP,2YU,2YAR,2YARR,2YAGH,2yn YAGH",
     "2AYER YAGH,2YAS,2YASS,2YASH,2YAT,2YATH,2YACH,2YATT,2YAV,2YAW,2YAY,2YAZ,2TAWELLEMET YAZ,2YAZZ",
     "2YE,2YO,2D6F:1ey aa LABIALIZATION bi,1ec bi,2D7F:1fq zo,0ETHIOPIC ij LOA,2MOA,2ROA,2SOA,2SHOA",
     "2BOA,2TOA,2COA,2NOA,2NYOA,2gq OA,2ZOA,2DOA,2DDOA,2JOA,2THOA,2CHOA,2PHOA,2POA,2GGWA,2GGWI",
     "2GGWEE,2GGWE,2DA0:2qz,2SSU,2SSI,2SSAA,2SSEE,2SSE,2SSO,2DA8:2CCA,2CCU,2CCI,2CCAA,2CCEE,2CCE",
     "2CCO,2DB0:2ZZA,2ZZU,2ZZI,2ZZAA,2ZZEE,2ZZE,2ZZO,2DB8:2CCHA,2CCHU,2CCHI,2CCHAA,2CCHEE,2CCHE",
     "2CCHO,2DC0:2QYA,2QYU,2QYI,2QYAA,2QYEE,2QYE,2QYO,2DC8:2KYA,2KYU,2KYI,2KYAA,2KYEE,2KYE,2KYO",
     "2DD0:2XYA,2XYU,2XYI,2XYAA,2XYEE,2XYE,2XYO,2DD8:2GYA,2GYU,2GYI,2GYAA,2GYEE,2GYE,2GYO",
     "2DE0:0dk jy aa BE,3VE,3GHE,3DE,3ZHE,3ZE,3KA,3EL,3EM,3EN,3O,3PE,3ER,3ES,3TE,3HA,3TSE,3CHE,3kf",
     "3SHCHA,3FITA,3ES-TE,3A,3IE,3DJERV,3MONOGRAPH UK,3YAT,3YU,3it A,3dz vy,3BIG vy,3it BIG vy",
     "0ai fp nk wi,2ga nk wi,0av nk bd,0ai nk bd,0av ga nk bd,0ai ga nk bd,0ii INTERPOLATION wi"],
    ["1ga INTERPOLATION wi,0ga TRANSPOSITION wi,0av TRANSPOSITION bd,0ai TRANSPOSITION bd,0ii bn",
     "0av ii OMISSION bd,0ai ii OMISSION bd,0EDITORIAL CORONIS,0PARAGRAPHOS,0FORKED PARAGRAPHOS",
     "0bq FORKED PARAGRAPHOS,0HYPODIASTOLE,0ga OBELOS,0ay ANCORA,0bp ANCORA,0ga dc fp,0al kr ps",
     "0cb si,0PALM BRANCH,0ps ab bk,0cq ab ei aj,0av in PARAPHRASE bd,0ai in PARAPHRASE bd",
     "0cq ab cx aj,3aq,0av an gc ab QUILL,0ai an gc ab QUILL,0qy av dd bd,1ai dd bd,0ha av dd bd",
     "1ai dd bd,0av oj U bd,0ai oj U bd,0av al ce,0ai al ce,0cj du dv cr cx cc,0cr cx dv cj du cc",
     "0ez bt cx cc,0by cx bi,0bq fd bi,0an cq,0ei rz,0wa ec bb cx,0cg es,0ii cx,1es,0cg ka",
     "0DAGGER ab av GUARD,2ai GUARD,0cg DAGGER,0qy dd hi ak,0TWO-EM jn,0THREE-EM jn",
     "0STENOGRAPHIC ig gb,0an fu du,0WIGGLY an fz,0CAPITULUM,0al ps,0bq es,0al LOW-REVERSED-9 eh bi",
     "0jn ab av UPTURN,0al SUSPENSION bi,0cb in KAVYKA,3ab KAVYKA aj,0in KAVYKA,2ab cx",
     "0al STACKED es,0ga hh,0eq DAGGER,0MEDIEVAL es,0PARAGRAPHUS bi,0PUNCTUS ELEVATUS bi",
     "0CORNISH VERSE yd,0gs PATTY ab ai CROSSBAR,3av CROSSBAR,0TIRONIAN ak ac ET,0MEDIEVAL dy bi",
     "1fd bi,0av bn bd ab at,0ai bn bd ab at,0av bn bd ab al at,0ai bn bd ab al at,0qy dd av ce",
     "2ai ce,0ha dd av ce,2ai ce,0kr ps,2E80:0CJK RADICAL REPEAT,2CLIFF,2yx cr,3cj,3aw,2ls,2xv",
     "2TABLE,2KNIFE cr,3cj,2DIVINATION,2SEAL,2ad cr,3cj,2LAME cr,3cj,3aw,3bt,2SNAKE,2THREAD",
     "2SNOUT cr,3cj,2jj cr,3cj,2mc,2RAP,2E9B:2CHOKE,2SUN,2nn,2DEATH,2MOTHER,2CIVILIAN,2rt cr,3cj",
     "2FIRE,2PAW cr,3cj,2yu dd TREE TRUNK,2COW,2DOG,2JADE,2BOLT OF CLOTH,2EYE,2SPIRIT cr,3cj",
     "2BAMBOO,2SILK,2gj SILK,2NET cr,3cj,3aw,3bt,2MESH,2SHEEP,2RAM,2EWE,2nb,2BRUSH cr,3cj,2MEAT",
     "2MORTAR,2GRASS cr,3cj,3aw,2TIGER,2CLOTHES,2hv cr,3cj,2gj SEE,2yu ky,2ky,2gj ys,3kt,2FOOT",
     "2gj CART,2yu WALK,2WALK cr,3cj,2CITY,2gj GOLD,2fj cr,3cj,2gj fj,3GATE,2MOUND cr,3cj,2RAIN",
     "2BLUE,2gj TANNED LEATHER,3qo,3WIND,3FLY,2EAT cr,3cj,3aw,2gj EAT,2sk,2gj zs,2BONE,2GHOST",
     "2gj FISH,3BIRD,3SALT,2yu WHEAT,3YELLOW,2gj FROG,2vh EVEN,2gj EVEN,2vh TOOTH,2gj TOOTH,2vh wr",
     "2gj wr,2TURTLE,2vh TURTLE,2gj TURTLE,2F00:0KANGXI RADICAL cr,2fz,2cx,2oz,2yx,2bv,2cj,2LID",
     "2MAN,2LEGS,2ENTER,2bs,2de xv,2COVER,2ICE,2TABLE,2fg xv,2KNIFE,2POWER,2WRAP,2SPOON,2ai fg xv",
     "2HIDING ENCLOSURE,2jo,2DIVINATION,2SEAL,2CLIFF,2PRIVATE,2AGAIN,2lv,2ENCLOSURE,2rm,2SCHOLAR",
     "2GO,3SLOWLY,2EVENING,2BIG,2WOMAN,2CHILD,2ROOF,2INCH,2ad,2LAME,2CORPSE,2SPROUT,2qn,2RIVER",
     "2WORK,2ONESELF,2TURBAN,2DRY,2fs THREAD,2ga CLIFF,2fj STRIDE,2cj zt,2SHOOT,2BOW,2SNOUT",
     "2BRISTLE,2STEP,2jj,2HALBERD,2DOOR,2mc,2BRANCH,2RAP,2iq,2DIPPER,2AXE,2bn,2mi,2SUN,2SAY,2nn",
     "2TREE,2LACK,2gb,2DEATH,2WEAPON,2DO mi,2COMPARE,2FUR,2CLAN,2STEAM,2rt,2FIRE,2CLAW,2FATHER",
     "2al X,2dd TREE TRUNK,2SLICE,2FANG,2COW,2DOG,2PROFOUND,2JADE,2MELON,2TILE,2SWEET,2LIFE,2USE",
     "2FIELD,2BOLT OF CLOTH,2SICKNESS,2ga TENT,2bc,2SKIN,2pu,2EYE,2SPEAR,2ae,2STONE,2SPIRIT,2TRACK",
     "2GRAIN,2CAVE,2STAND,2BAMBOO,2RICE,2SILK,2JAR,2NET,2SHEEP,2FEATHER,2nb,2bh,2PLOW,2EAR,2BRUSH",
     "2MEAT,2MINISTER,2SELF,2ARRIVE,2MORTAR,2yo,2OPPOSE,2BOAT,2STOPPING,2COLOR,2GRASS,2TIGER",
     "2INSECT,2BLOOD,2WALK ENCLOSURE,2CLOTHES,2hv,2SEE,2ky,2ys,2VALLEY,2BEAN,2PIG,2BADGER,2kt,2RED",
     "2RUN,2FOOT,2BODY,2CART,2BITTER,2MORNING,2WALK,2CITY,2WINE,2DISTINGUISH,2VILLAGE,2GOLD,2fj",
     "2GATE,2MOUND,2SLAVE,2fs TAILED BIRD,2RAIN,2BLUE,2WRONG,2ds,2LEATHER,2TANNED LEATHER,2LEEK,2oh",
     "2qo,2WIND,2FLY,2EAT,2sk,2FRAGRANT,2zs,2BONE,2TALL,2HAIR,2FIGHT,2SACRIFICIAL WINE,2CAULDRON",
     "2GHOST,2FISH,2BIRD,2SALT,2DEER,2WHEAT,2HEMP,2YELLOW,2MILLET,2ax,2EMBROIDERY,2FROG,2TRIPOD",
     "2DRUM,2RAT,2NOSE,2EVEN,2TOOTH,2wr,2TURTLE,2FLUTE,2FF0:0gv DESCRIPTION ic av TO ai,3aj TO aq",
     "3av TO bb bh ai,3aj TO bb bh aq,3ig SURROUND,3SURROUND md aj,5aq,5av,5dq av,6ai,5ct av",
     "3OVERLAID,3000:1lj,1es,1ig gb,0DITTO bi,0sh INDUSTRIAL STANDARD au,0gv lm bi,1CLOSING bi",
     "1dr et,0av fp bd,0ai fp bd,0av al fp bd,0ai al fp bd,0av gz bd,0ai gz bd,0av bc gz bd",
     "0ai bc gz bd,0av ax le bd,0ai ax le bd,0POSTAL bi,0GETA bi,0av if kt bd,0ai if kt bd",
     "0av bc le bd,0ai bc le bd,0av bc if kt bd,0ai bc if kt bd,0av bc bn bd,0ai bc bn bd,0pz jn",
     "0bq al tt eh bi,0al tt eh bi,0in al tt eh bi,0POSTAL bi ds,0HANGZHOU pe cr,2cj,2aw,2bt,2by",
     "2fu,2bu,2bs,2dj,0gv LEVEL ff bi,1ok ff bi,1DEPARTING ff bi,1ENTERING ff bi,0sl cw cx ff bi",
     "1al cx ff bi,0WAVY jn,0an KANA REPEAT bi,3ab ru oh bi,3bi dq dd,3ab ru oh bi dq dd,3bi ct dd",
     "0dl POSTAL bi,0gv TELEGRAPH fz FEED ec au,0HANGZHOU pe jo,2fl,2jg,0an gv lm bi,0MASU bi",
     "0PART ALTERNATION bi,0gv wb ny,1dd xu lj,3041:0vk aa ad A,2A,2ad I,2I,2ad U,2U,2ad E,2E,2ad O",
     "2O,2KA,2GA,2KI,2GI,2KU,2GU,2KE,2GE,2KO,2GO,2SA,2ZA,2SI,2ZI,2SU,2ZU,2SE,2ZE,2SO,2ZO,2TA,2DA",
     "2TI,2DI,2ad TU,2TU,2DU,2TE,2DE,2TO,2DO,2NA,2NI,2NU,2NE,2NO,2HA,2BA,2PA,2HI,2BI,2PI,2HU,2BU",
     "2PU,2HE,2BE,2PE,2HO,2BO,2PO,2MA,2MI,2MU,2ME,2MO,2ad YA,2YA,2ad YU,2YU,2ad YO,2YO,2RA,2RI,2RU",
     "2RE,2RO,2ad WA,2WA,2WI,2WE,2WO,2N,2VU,2ad KA,3KE,3099:0dk ly ru oh bi,2SEMI-VOICED oh bi",
     "0ly ru oh bi,1SEMI-VOICED oh bi,0vk lm bi,1ru lm bi,1gr YORI,0ly al ps,0lz aa ad A,2A,2ad I",
     "2I,2ad U,2U,2ad E,2E,2ad O,2O,2KA,2GA,2KI,2GI,2KU,2GU,2KE,2GE,2KO,2GO,2SA,2ZA,2SI,2ZI,2SU,2ZU",
     "2SE,2ZE,2SO,2ZO,2TA,2DA,2TI,2DI,2ad TU,2TU,2DU,2TE,2DE,2TO,2DO,2NA,2NI,2NU,2NE,2NO,2HA,2BA",
     "2PA,2HI,2BI,2PI,2HU,2BU,2PU,2HE,2BE,2PE,2HO,2BO,2PO,2MA,2MI,2MU,2ME,2MO,2ad YA,2YA,2ad YU,2YU",
     "2ad YO,2YO,2RA,2RI,2RU,2RE,2RO,2ad WA,2WA,2WI,2WE,2WO,2N,2VU,2ad KA,3KE,2VA,2VI,2VE,2VO",
     "1bb cx,0ly PROLONGED oh bi,0lz lm bi,1ru lm bi,1gr KOTO,3105:0BOPOMOFO aa B,2P,2M,2F,2D,2T,2N",
     "2L,2G,2K,2H,2J,2Q,2X,2ZH,2CH,2SH,2R,2Z,2C,2S,2A,2O,2E,2EH,2AI,2EI,2AU,2OU,2AN,2EN,2ANG,2ENG",
     "2ER,2I,2U,2IU,2V,2NG,2GN,2IH,2O ab cx aj,2NN,3131:0sl aa wl,2ww,2KIYEOK-SIOS,2NIEUN,2xd,2xc",
     "2wd,2wv,2RIEUL,2ux,2xa,2wz,2yy,2RIEUL-THIEUTH,2RIEUL-PHIEUPH,2xb,2MIEUM,2PIEUP,2yq,2zb,2SIOS",
     "2SSANGSIOS,2zq,2CIEUC,2yr,2ti,2te,2sw,2tc,2HIEUH,2A,2AE,2YA,2YAE,2EO,2E,2YEO,2YE,2O,2WA,2WAE",
     "2OE,2YO,2U,2WEO,2WE,2WI,2YU,2EU,2YI,2I,1uh,1aa SSANGNIEUN,2NIEUN-TIKEUT,2NIEUN-SIOS"],
    ["2NIEUN-PANSIOS,2RIEUL-KIYEOK-SIOS,2RIEUL-TIKEUT,2RIEUL-PIEUP-SIOS,2RIEUL-PANSIOS",
     "2RIEUL-YEORINHIEUH,2MIEUM-PIEUP,2MIEUM-SIOS,2MIEUM-PANSIOS,2KAPYEOUNMIEUM,2PIEUP-KIYEOK",
     "2PIEUP-TIKEUT,2PIEUP-SIOS-KIYEOK,2va,2PIEUP-CIEUC,2PIEUP-THIEUTH,2KAPYEOUNPIEUP",
     "2KAPYEOUNSSANGPIEUP,2SIOS-KIYEOK,2SIOS-NIEUN,2SIOS-TIKEUT,2SIOS-PIEUP,2SIOS-CIEUC,2PANSIOS",
     "2SSANGIEUNG,2YESIEUNG,2YESIEUNG-SIOS,2YESIEUNG-PANSIOS,2xs,2SSANGHIEUH,2YEORINHIEUH,2YO-YA",
     "2YO-YAE,2YO-I,2YU-YEO,2YU-YE,2YU-I,2ARAEA,2ARAEAE,3190:0gv ANNOTATION LINKING bi,2hz bi",
     "2cr bi,2cj bi,2aw bi,2bt bi,2qy bi,2bb bi,2ha bi,2zy bi,2yx bi,2rx bi,2FOURTH bi,2HEAVEN bi",
     "2rm bi,2MAN bi,0BOPOMOFO aa BU,2ZI,2JI,2GU,2EE,2ENN,2OO,2ONN,2IR,2ANN,2INN,2UNN,2IM,2NGG",
     "2AINN,2AUNN,2AM,2OM,2ONG,2INNN,1ar aa P,3T,3K,3H,1aa GH,2LH,2ZY,1ar aa G,1aa GW,2KW,2OE,2AH",
     "0CJK at T,2WG,2XG,2BXG,2SW,2HZZ,2HZG,2HP,2HZWG,2SZWG,2HZT,2HZZP,2HPWG,2HZW,2HZZZ,2N,2H,2S,2P",
     "2SP,2D,2HZ,2HG,2SZ,2SWZ,2ST,2SG,2PD,2PZ,2TN,2SZZ,2SWG,2HXWG,2HZZZG,2PG,2Q,31F0:0lz aa ad KU",
     "3SI,3SU,3TO,3NU,3HA,3HI,3HU,3HE,3HO,3MU,3RA,3RI,3RU,3RE,3RO,0tu sl wl,2NIEUN,2wd,2RIEUL",
     "2MIEUM,2PIEUP,2SIOS,2zq,2CIEUC,2ti,2te,2sw,2tc,2HIEUH,2wl A,2NIEUN A,2wd A,2RIEUL A,2MIEUM A",
     "2PIEUP A,2SIOS A,2zq A,2CIEUC A,2ti A,2te A,2sw A,2tc A,2HIEUH A,2CIEUC U,1KOREAN ic OJEON",
     "3O HU,3220:1IDEOGRAPH cr,2cj,2aw,2bt,2by,2fu,2bu,2bs,2dj,2jo,2nn,2FIRE,2rt,2WOOD,2METAL,2rm",
     "2SUN,2STOCK,2HAVE,2SOCIETY,2NAME,2SPECIAL,2FINANCIAL,2CONGRATULATION,2LABOR,2REPRESENT,2CALL",
     "2STUDY,2SUPERVISE,2ENTERPRISE,2RESOURCE,2ALLIANCE,2FESTIVAL,2tk,2SELF,2REACH,0dl IDEOGRAPH fd",
     "2KINDERGARTEN,2SCHOOL,2KOTO,1dr jo ON ax bn,2fl ON ax bn,2jg ON ax bn,2ni ON ax bn",
     "2ik ON ax bn,2oi ON ax bn,2fh ON ax bn,2mp ON ax bn,0PARTNERSHIP ak,0dl dr fl cr,3cj,3aw,3bt",
     "3by,3fu,3bu,3bs,3dj,2jg,3cr,3cj,3aw,3bt,3by,1sl wl,2NIEUN,2wd,2RIEUL,2MIEUM,2PIEUP,2SIOS,2zq",
     "2CIEUC,2ti,2te,2sw,2tc,2HIEUH,2wl A,2NIEUN A,2wd A,2RIEUL A,2MIEUM A,2PIEUP A,2SIOS A,2zq A",
     "2CIEUC A,2ti A,2te A,2sw A,2tc A,2HIEUH A,1KOREAN ic CHAMKO,3JUEUI,1sl zq U",
     "0KOREAN STANDARD au,0dl IDEOGRAPH cr,2cj,2aw,2bt,2by,2fu,2bu,2bs,2dj,2jo,2nn,2FIRE,2rt,2WOOD",
     "2METAL,2rm,2SUN,2STOCK,2HAVE,2SOCIETY,2NAME,2SPECIAL,2FINANCIAL,2CONGRATULATION,2LABOR",
     "2SECRET,2MALE,2FEMALE,2SUITABLE,2EXCELLENT,2PRINT,2ATTENTION,2ITEM,2tk,2COPY,2CORRECT,2fv,2ea",
     "2in,2av,2ai,2MEDICINE,2RELIGION,2STUDY,2SUPERVISE,2ENTERPRISE,2RESOURCE,2ALLIANCE,2NIGHT",
     "1dr jg fu,3bu,3bs,3dj,2ni,3cr,3cj,3aw,3bt,3by,3fu,3bu,3bs,3dj,2ik,0gv TELEGRAPH au rp JANUARY",
     "4FEBRUARY,4MARCH,4APRIL,4MAY,4JUNE,4JULY,4AUGUST,4SEPTEMBER,4OCTOBER,4NOVEMBER,4DECEMBER",
     "0bn HG,1ERG,1EV,0LIMITED LIABILITY ak,0dl lz A,2I,2U,2E,2O,2KA,2KI,2KU,2KE,2KO,2SA,2SI,2SU",
     "2SE,2SO,2TA,2TI,2TU,2TE,2TO,2NA,2NI,2NU,2NE,2NO,2HA,2HI,2HU,2HE,2HO,2MA,2MI,2MU,2ME,2MO,2YA",
     "2YU,2YO,2RA,2RI,2RU,2RE,2RO,2WA,2WI,2WE,2WO,0bn ERA NAME REIWA,1APAATO,1ARUHUA,1ANPEA,1AARU",
     "1ININGU,1INTI,1UON,1ESUKUUDO,1EEKAA,1ONSU,1OOMU,1KAIRI,1KARATTO,1KARORII,1GARON,1GANMA,1GIGA",
     "1GINII,1KYURII,1GIRUDAA,1KIRO,1KIROGURAMU,1KIROMEETORU,1KIROWATTO,1GURAMU,1GURAMUTON",
     "1KURUZEIRO,1KUROONE,1KEESU,1KORUNA,1KOOPO,1SAIKURU,1SANTIIMU,1SIRINGU,1SENTI,1SENTO,1DAASU",
     "1DESI,1DORU,1TON,1NANO,1NOTTO,1HAITU,1PAASENTO,1PAATU,1BAARERU,1PIASUTORU,1PIKURU,1PIKO,1BIRU",
     "1HUARADDO,1HUIITO,1BUSSYERU,1HURAN,1HEKUTAARU,1PESO,1PENIHI,1HERUTU,1PENSU,1PEEZI,1BEETA",
     "1POINTO,1BORUTO,1HON,1PONDO,1HOORU,1HOON,1MAIKURO,1MAIRU,1MAHHA,1MARUKU,1MANSYON,1MIKURON",
     "1MIRI,1MIRIBAARU,1MEGA,1MEGATON,1MEETORU,1YAADO,1YAARU,1YUAN,1RITTORU,1RIRA,1RUPII,1RUUBURU",
     "1REMU,1RENTOGEN,1WATTO,0gv TELEGRAPH au rp HOUR et,5cr,5cj,5aw,5bt,5by,5fu,5bu,5bs,5dj,5jo",
     "5pt,5nc,5qa,5qp,5np,5pa,5nw,5oq,5ql,5fl,5TWENTY-ONE,5TWENTY-TWO,5TWENTY-THREE,5TWENTY-FOUR",
     "0bn HPA,1DA,1AU,1gc,1OV,1PC,1DM,2ez,2CUBED,1IU,1ERA NAME HEISEI,3SYOUWA,3TAISYOU,3MEIZI",
     "1CORPORATION,1PA AMPS,1NA,1MU A,1MA,1KA,1KB,1MB,1GB,1CAL,1KCAL,1PF,1NF,1MU F,2G,1MG,1KG,1HZ",
     "1KHZ,1MHZ,1GHZ,1THZ,1MU L,1ML,1DL,1KL,1FM,1NM,1MU M,1MM,1CM,1KM,1MM ez,1CM ez,1M ez,1KM ez",
     "1MM CUBED,1CM CUBED,1M CUBED,1KM CUBED,1M dv S,4ez,1PA,1KPA,1MPA,1GPA,1RAD,2dv S,4ez,1PS,1NS",
     "1MU S,1MS,1PV,1NV,1MU V,1MV,1KV,1MV MEGA,1PW,1NW,1MU W,1MW,1KW,1MW MEGA,1K OHM,1M OHM,1AM,1BQ",
     "1CC,1CD,1C dv KG,1CO,1DB,1GY,1HA,1HP,1IN,1KK,1KM ac,1KT,1LM,1LN,1LOG,1LX,1MB ad,1MIL,1MOL,1PH",
     "1PM,1PPM,1PR,1SR,1SV,1WB,1V dv M,1A dv M,0gv TELEGRAPH au rp DAY cr,5cj,5aw,5bt,5by,5fu,5bu",
     "5bs,5dj,5jo,5pt,5nc,5qa,5qp,5np,5pa,5nw,5oq,5ql,5fl,5TWENTY-ONE,5TWENTY-TWO,5TWENTY-THREE",
     "5TWENTY-FOUR,5ws,5TWENTY-SIX,5TWENTY-SEVEN,5TWENTY-EIGHT,5TWENTY-NINE,5jg,5THIRTY-ONE,0bn GAL",
     "4DC0:0HEXAGRAM rp rr CREATIVE HEAVEN,3RECEPTIVE rm,2DIFFICULTY AT rr BEGINNING",
     "2YOUTHFUL FOLLY,2WAITING,2CONFLICT,2rr ARMY,2yc TOGETHER,2ad TAMING,2TREADING,2PEACE",
     "2STANDSTILL,2FELLOWSHIP,2GREAT POSSESSION,2MODESTY,2ENTHUSIASM,2FOLLOWING,2WORK ON rr DECAYED",
     "2APPROACH,2CONTEMPLATION,2BITING la,2GRACE,2SPLITTING APART,2RETURN,2INNOCENCE,2GREAT TAMING",
     "2lv yf,2GREAT PREPONDERANCE,2rr ABYSMAL rt,3CLINGING FIRE,2INFLUENCE,2DURATION,2RETREAT",
     "2GREAT POWER,2PROGRESS,2DARKENING OF rr cn,2rr FAMILY,2OPPOSITION,2OBSTRUCTION,2DELIVERANCE",
     "2DECREASE,2INCREASE,2BREAKTHROUGH,2COMING TO MEET,2GATHERING TOGETHER,2PUSHING UPWARD",
     "2OPPRESSION,2rr WELL,2REVOLUTION,2rr CAULDRON,3AROUSING THUNDER,3KEEPING STILL qn",
     "2DEVELOPMENT,2rr MARRYING MAIDEN,2ABUNDANCE,2rr WANDERER,3GENTLE WIND,3JOYOUS LAKE",
     "2DISPERSION,2LIMITATION,2INNER TRUTH,2ad PREPONDERANCE,2AFTER COMPLETION,2BEFORE COMPLETION",
     "A000:0YI ij IT,2IX,2I,2IP,2IET,2IEX,2IE,2IEP,2AT,2AX,2A,2AP,2UOX,2UO,2UOP,2OT,2OX,2O,2OP,2EX",
     "2E,2WU,2BIT,2BIX,2BI,2BIP,2BIET,2BIEX,2BIE,2BIEP,2BAT,2BAX,2BA,2BAP,2BUOX,2BUO,2BUOP,2BOT,2xv",
     "2BO,2BOP,2BEX,2BE,2BEP,2BUT,2BUX,2BU,2BUP,2BURX,2BUR,2BYT,2BYX,2BY,2BYP,2BYRX,2BYR,2PIT,2PIX",
     "2PI,2PIP,2PIEX,2PIE,2PIEP,2PAT,2PAX,2PA,2PAP,2PUOX,2PUO,2PUOP,2POT,2POX,2PO,2POP,2PUT,2PUX",
     "2PU,2PUP,2PURX,2PUR,2PYT,2PYX,2PY,2PYP,2PYRX,2PYR,2BBIT,2BBIX,2BBI,2BBIP,2BBIET,2BBIEX,2BBIE"],
    ["2BBIEP,2BBAT,2BBAX,2BBA,2BBAP,2BBUOX,2BBUO,2BBUOP,2BBOT,2BBOX,2BBO,2BBOP,2BBEX,2BBE,2BBEP",
     "2BBUT,2BBUX,2BBU,2BBUP,2BBURX,2BBUR,2BBYT,2BBYX,2BBY,2BBYP,2NBIT,2NBIX,2NBI,2NBIP,2NBIEX",
     "2NBIE,2NBIEP,2NBAT,2NBAX,2NBA,2NBAP,2NBOT,2NBOX,2NBO,2NBOP,2NBUT,2NBUX,2NBU,2NBUP,2NBURX",
     "2NBUR,2NBYT,2NBYX,2NBY,2NBYP,2NBYRX,2NBYR,2HMIT,2HMIX,2HMI,2HMIP,2HMIEX,2HMIE,2HMIEP,2HMAT",
     "2HMAX,2HMA,2HMAP,2HMUOX,2HMUO,2HMUOP,2HMOT,2HMOX,2HMO,2HMOP,2HMUT,2HMUX,2HMU,2HMUP,2HMURX",
     "2HMUR,2HMYX,2HMY,2HMYP,2HMYRX,2HMYR,2MIT,2MIX,2MI,2MIP,2MIEX,2MIE,2MIEP,2MAT,2MAX,2MA,2MAP",
     "2MUOT,2MUOX,2MUO,2MUOP,2MOT,2MOX,2MO,2MOP,2MEX,2ME,2MUT,2MUX,2MU,2MUP,2MURX,2MUR,2MYT,2MYX",
     "2MY,2MYP,2FIT,2FIX,2FI,2FIP,2FAT,2FAX,2FA,2FAP,2FOX,2FO,2FOP,2FUT,2FUX,2FU,2FUP,2FURX,2FUR",
     "2FYT,2FYX,2FY,2FYP,2VIT,2VIX,2VI,2VIP,2VIET,2VIEX,2VIE,2VIEP,2VAT,2VAX,2VA,2VAP,2VOT,2VOX,2VO",
     "2VOP,2VEX,2VEP,2VUT,2VUX,2VU,2VUP,2VURX,2VUR,2VYT,2VYX,2VY,2VYP,2VYRX,2VYR,2DIT,2DIX,2DI,2DIP",
     "2DIEX,2DIE,2DIEP,2DAT,2DAX,2DA,2DAP,2DUOX,2DUO,2cx,2DOX,2DO,2DOP,2DEX,2DE,2DEP,2DUT,2DUX,2DU",
     "2DUP,2DURX,2DUR,2TIT,2TIX,2TI,2TIP,2TIEX,2TIE,2TIEP,2TAT,2TAX,2TA,2TAP,2TUOT,2TUOX,2TUO,2TUOP",
     "2TOT,2TOX,2TO,2qy,2TEX,2TE,2TEP,2TUT,2TUX,2TU,2TUP,2TURX,2TUR,2DDIT,2DDIX,2DDI,2DDIP,2DDIEX",
     "2DDIE,2DDIEP,2DDAT,2DDAX,2or,2DDAP,2DDUOX,2DDUO,2DDUOP,2DDOT,2DDOX,2DDO,2DDOP,2DDEX,2DDE",
     "2DDEP,2DDUT,2DDUX,2DDU,2DDUP,2DDURX,2DDUR,2NDIT,2NDIX,2NDI,2NDIP,2NDIEX,2NDIE,2NDAT,2NDAX",
     "2NDA,2NDAP,2NDOT,2NDOX,2NDO,2NDOP,2NDEX,2NDE,2NDEP,2NDUT,2NDUX,2NDU,2NDUP,2NDURX,2NDUR,2HNIT",
     "2HNIX,2HNI,2HNIP,2HNIET,2HNIEX,2HNIE,2HNIEP,2HNAT,2HNAX,2HNA,2HNAP,2HNUOX,2HNUO,2HNOT,2HNOX",
     "2HNOP,2HNEX,2HNE,2HNEP,2HNUT,2NIT,2NIX,2NI,2NIP,2NIEX,2NIE,2NIEP,2NAX,2NA,2NAP,2NUOX,2NUO",
     "2NUOP,2mi,2NOX,2NO,2NOP,2NEX,2NE,2NEP,2NUT,2NUX,2NU,2NUP,2NURX,2NUR,2HLIT,2HLIX,2HLI,2HLIP",
     "2HLIEX,2HLIE,2HLIEP,2HLAT,2HLAX,2HLA,2HLAP,2HLUOX,2HLUO,2HLUOP,2HLOX,2HLO,2HLOP,2HLEX,2HLE",
     "2HLEP,2HLUT,2HLUX,2HLU,2HLUP,2HLURX,2HLUR,2HLYT,2HLYX,2HLY,2HLYP,2HLYRX,2HLYR,2LIT,2LIX,2LI",
     "2LIP,2LIET,2LIEX,2LIE,2LIEP,2LAT,2LAX,2LA,2LAP,2LUOT,2LUOX,2LUO,2LUOP,2LOT,2LOX,2LO,2LOP,2LEX",
     "2LE,2LEP,2LUT,2LUX,2LU,2LUP,2LURX,2LUR,2LYT,2LYX,2LY,2LYP,2LYRX,2LYR,2GIT,2GIX,2GI,2GIP,2GIET",
     "2GIEX,2GIE,2GIEP,2GAT,2GAX,2GA,2GAP,2GUOT,2GUOX,2GUO,2GUOP,2GOT,2GOX,2GO,2GOP,2GET,2GEX,2GE",
     "2GEP,2GUT,2GUX,2GU,2GUP,2GURX,2GUR,2KIT,2KIX,2KI,2KIP,2KIEX,2KIE,2KIEP,2KAT,2KAX,2KA,2KAP",
     "2KUOX,2KUO,2KUOP,2KOT,2KOX,2KO,2KOP,2KET,2KEX,2KE,2KEP,2KUT,2KUX,2KU,2KUP,2KURX,2KUR,2GGIT",
     "2GGIX,2GGI,2GGIEX,2GGIE,2GGIEP,2GGAT,2GGAX,2GGA,2GGAP,2GGUOT,2GGUOX,2GGUO,2GGUOP,2GGOT,2GGOX",
     "2GGO,2GGOP,2GGET,2GGEX,2GGE,2GGEP,2GGUT,2GGUX,2GGU,2GGUP,2GGURX,2GGUR,2MGIEX,2MGIE,2MGAT",
     "2MGAX,2MGA,2MGAP,2MGUOX,2MGUO,2MGUOP,2MGOT,2MGOX,2MGO,2MGOP,2MGEX,2MGE,2MGEP,2MGUT,2MGUX,2MGU",
     "2MGUP,2MGURX,2MGUR,2HXIT,2HXIX,2HXI,2HXIP,2HXIET,2HXIEX,2HXIE,2HXIEP,2HXAT,2HXAX,2HXA,2HXAP",
     "2HXUOT,2HXUOX,2HXUO,2HXUOP,2HXOT,2HXOX,2HXO,2HXOP,2HXEX,2HXE,2HXEP,2NGIEX,2NGIE,2NGIEP,2NGAT",
     "2NGAX,2ke,2NGAP,2NGUOT,2NGUOX,2NGUO,2NGOT,2NGOX,2NGO,2NGOP,2NGEX,2NGE,2NGEP,2HIT,2HIEX,2HIE",
     "2HAT,2HAX,2HA,2HAP,2HUOT,2HUOX,2HUO,2HUOP,2HOT,2HOX,2HO,2HOP,2HEX,2HE,2HEP,2WAT,2WAX,2WA,2WAP",
     "2WUOX,2WUO,2WUOP,2WOX,2WO,2WOP,2WEX,2WE,2WEP,2ZIT,2ZIX,2ZI,2ZIP,2ZIEX,2ZIE,2ZIEP,2ZAT,2ZAX",
     "2ZA,2ZAP,2ZUOX,2ZUO,2ZUOP,2ZOT,2ZOX,2ZO,2ZOP,2ZEX,2ZE,2ZEP,2ZUT,2ZUX,2ZU,2ZUP,2ZURX,2ZUR,2ZYT",
     "2ZYX,2ZY,2ZYP,2ZYRX,2ZYR,2CIT,2CIX,2CI,2CIP,2CIET,2CIEX,2CIE,2CIEP,2CAT,2CAX,2CA,2CAP,2CUOX",
     "2CUO,2CUOP,2COT,2COX,2CO,2COP,2CEX,2CE,2CEP,2CUT,2CUX,2CU,2CUP,2CURX,2CUR,2CYT,2CYX,2CY,2CYP",
     "2CYRX,2CYR,2ZZIT,2ZZIX,2ZZI,2ZZIP,2ZZIET,2ZZIEX,2ZZIE,2ZZIEP,2ZZAT,2ZZAX,2ZZA,2ZZAP,2ZZOX",
     "2ZZO,2ZZOP,2ZZEX,2ZZE,2ZZEP,2ZZUX,2ZZU,2ZZUP,2ZZURX,2ZZUR,2ZZYT,2ZZYX,2ZZY,2ZZYP,2ZZYRX,2ZZYR",
     "2NZIT,2NZIX,2NZI,2NZIP,2NZIEX,2NZIE,2NZIEP,2NZAT,2NZAX,2NZA,2NZAP,2NZUOX,2NZUO,2NZOX,2NZOP",
     "2NZEX,2NZE,2NZUX,2NZU,2NZUP,2NZURX,2NZUR,2NZYT,2NZYX,2NZY,2NZYP,2NZYRX,2NZYR,2SIT,2fu,2SI",
     "2SIP,2SIEX,2SIE,2SIEP,2SAT,2SAX,2SA,2SAP,2SUOX,2SUO,2SUOP,2SOT,2SOX,2SO,2SOP,2SEX,2SE,2SEP",
     "2SUT,2SUX,2SU,2SUP,2SURX,2SUR,2SYT,2SYX,2SY,2SYP,2SYRX,2SYR,2SSIT,2SSIX,2SSI,2SSIP,2SSIEX",
     "2SSIE,2SSIEP,2SSAT,2SSAX,2qz,2SSAP,2SSOT,2SSOX,2SSO,2SSOP,2SSEX,2SSE,2SSEP,2SSUT,2SSUX,2SSU",
     "2SSUP,2SSYT,2SSYX,2SSY,2SSYP,2SSYRX,2SSYR,2ZHAT,2ZHAX,2ZHA,2ZHAP,2ZHUOX,2ZHUO,2ZHUOP,2ZHOT",
     "2ZHOX,2ZHO,2ZHOP,2ZHET,2ZHEX,2ZHE,2ZHEP,2ZHUT,2ZHUX,2ZHU,2ZHUP,2ZHURX,2ZHUR,2ZHYT,2ZHYX,2ZHY",
     "2ZHYP,2ZHYRX,2ZHYR,2CHAT,2CHAX,2kz,2CHAP,2CHUOT,2CHUOX,2CHUO,2CHUOP,2CHOT,2CHOX,2CHO,2CHOP",
     "2CHET,2CHEX,2CHE,2CHEP,2CHUX,2CHU,2CHUP,2CHURX,2CHUR,2CHYT,2CHYX,2CHY,2CHYP,2CHYRX,2CHYR",
     "2RRAX,2RRA,2RRUOX,2RRUO,2RROT,2RROX,2RRO,2RROP,2RRET,2RREX,2RRE,2RREP,2RRUT,2RRUX,2RRU,2RRUP",
     "2RRURX,2RRUR,2RRYT,2RRYX,2RRY,2RRYP,2RRYRX,2RRYR,2NRAT,2NRAX,2NRA,2NRAP,2NROX,2NRO,2NROP",
     "2NRET,2NREX,2NRE,2NREP,2NRUT,2NRUX,2NRU,2NRUP,2NRURX,2NRUR,2NRYT,2NRYX,2NRY,2NRYP,2NRYRX",
     "2NRYR,2SHAT,2SHAX,2kf,2SHAP,2SHUOX,2SHUO,2SHUOP,2SHOT,2SHOX,2SHO,2SHOP,2SHET,2SHEX,2tp,2SHEP",
     "2SHUT,2SHUX,2SHU,2SHUP,2SHURX,2SHUR,2SHYT,2SHYX,2SHY,2SHYP,2SHYRX,2SHYR,2RAT,2RAX,2RA,2RAP",
     "2RUOX,2RUO,2RUOP,2ROT,2ROX,2RO,2ROP,2REX,2RE,2REP,2RUT,2RUX,2RU,2RUP,2RURX,2RUR,2RYT,2RYX,2RY",
     "2RYP,2RYRX,2RYR,2JIT,2JIX,2JI,2JIP,2JIET,2JIEX,2JIE,2JIEP,2JUOT,2JUOX,2JUO,2JUOP,2JOT,2JOX",
     "2JO,2JOP,2JUT,2JUX,2JU,2JUP,2JURX,2JUR,2JYT,2JYX,2JY,2JYP,2JYRX,2JYR,2QIT,2QIX,2QI,2QIP,2QIET",
     "2QIEX,2QIE,2QIEP,2QUOT,2QUOX,2QUO,2QUOP,2QOT,2QOX,2QO,2QOP,2QUT,2QUX,2QU,2QUP,2QURX,2QUR,2QYT",
     "2QYX,2QY,2QYP,2QYRX,2QYR,2JJIT,2JJIX,2JJI,2JJIP,2JJIET,2JJIEX,2JJIE,2JJIEP,2JJUOX,2JJUO",
     "2JJUOP,2JJOT,2JJOX,2JJO,2JJOP,2JJUT,2JJUX,2JJU,2JJUP,2JJURX,2JJUR,2JJYT,2JJYX,2JJY,2JJYP",
     "2NJIT,2NJIX,2NJI,2NJIP,2NJIET,2NJIEX,2NJIE,2NJIEP,2NJUOX,2NJUO,2NJOT,2NJOX,2NJO,2NJOP,2NJUX",
     "2NJU,2NJUP,2NJURX,2NJUR,2NJYT,2NJYX,2NJY,2NJYP,2NJYRX,2NJYR,2NYIT,2NYIX,2NYI,2NYIP,2NYIET",
     "2NYIEX,2NYIE,2NYIEP,2NYUOX,2NYUO,2NYUOP,2NYOT,2NYOX,2NYO,2NYOP,2NYUT,2NYUX,2NYU,2NYUP,2XIT",
     "2XIX,2XI,2XIP,2XIET,2XIEX,2XIE,2XIEP,2XUOX,2XUO,2XOT,2XOX,2XO,2XOP,2XYT,2XYX,2XY,2XYP,2XYRX",
     "2XYR,2YIT,2YIX,2YI,2YIP,2YIET,2YIEX,2YIE,2YIEP,2YUOT,2YUOX,2YUO,2YUOP,2YOT,2YOX,2YO,2YOP,2YUT"],
    ["2YUX,2YU,2YUP,2YURX,2YUR,2YYT,2YYX,2YY,2YYP,2YYRX,2YYR,A490:1RADICAL QOT,2LI,2KIT,2NYIP,2CYP",
     "2SSI,2GGOP,2GEP,2MI,2HXIT,2LYR,2BBUT,2MOP,2YO,2PUT,2HXUO,2TAT,2GA,2ZUP,2CYT,2DDUR,2BUR,2GGUO",
     "2NYOP,2TU,2OP,2JJUT,2ZOT,2PYT,2HMO,2YIT,2VUR,2SHY,2VEP,2ZA,2JO,2NZUP,2JJY,2GOT,2JJIE,2WO,2DU",
     "2SHUR,2LIE,2CY,2CUOP,2CIP,2HXOP,2SHAT,2ZUR,2SHOP,2CHE,2ZZIET,2NBIE,2KE,A4D0:0LISU aa BA,2PA",
     "2mz,2DA,2TA,2lp,2GA,2KA,2lf,2JA,2CA,2kz,2DZA,2vu,2wc,2MA,2NA,2LA,2SA,2ZHA,2ZA,2ke,2HA,2XA",
     "2HHA,2FA,2WA,2kf,2YA,2oo,2A,2AE,2E,2EU,2I,2O,2U,2UE,2UH,2OE,2ff MYA TI,3NA PO,3MYA CYA,4BO",
     "4NA,4JEU,1cc es,2ig gb,0VAI ij EE,2EEN,2HEE,2WEE,2WEEN,2PEE,2BHEE,2BEE,2MBEE,2KPEE,2MGBEE",
     "2GBEE,2FEE,2VEE,2TEE,2THEE,2DHEE,2DHHEE,2LEE,2REE,2DEE,2NDEE,2SEE,2SHEE,2ZEE,2ZHEE,2CEE,2JEE",
     "2NJEE,2YEE,2KEE,2NGGEE,2GEE,2MEE,2NEE,2NYEE,2I,2IN,2HI,2HIN,2WI,2WIN,2PI,2BHI,2BI,2MBI,2KPI",
     "2MGBI,2GBI,2FI,2VI,2TI,2THI,2DHI,2DHHI,2LI,2RI,2DI,2NDI,2SI,2SHI,2ZI,2ZHI,2CI,2JI,2NJI,2YI",
     "2KI,2NGGI,2GI,2MI,2NI,2NYI,2A,2AN,2NGAN,2HA,2HAN,2WA,2WAN,2PA,2py,2BA,2MBA,2KPA,2KPAN,2MGBA",
     "2GBA,2FA,2VA,2TA,2lp,2ov,2DHHA,2LA,2RA,2DA,2NDA,2SA,2kf,2ZA,2ZHA,2CA,2JA,2NJA,2YA,2KA,2KAN",
     "2NGGA,2GA,2MA,2NA,2lb,2OO,2OON,2HOO,2WOO,2WOON,2POO,2BHOO,2BOO,2MBOO,2KPOO,2MGBOO,2GBOO,2FOO",
     "2VOO,2TOO,2THOO,2DHOO,2DHHOO,2LOO,2ROO,2DOO,2NDOO,2SOO,2SHOO,2ZOO,2ZHOO,2COO,2JOO,2NJOO,2YOO",
     "2KOO,2NGGOO,2GOO,2MOO,2NOO,2NYOO,2U,2UN,2HU,2HUN,2WU,2WUN,2PU,2BHU,2BU,2MBU,2KPU,2MGBU,2GBU",
     "2FU,2VU,2TU,2THU,2DHU,2DHHU,2LU,2RU,2DU,2NDU,2SU,2SHU,2ZU,2ZHU,2CU,2JU,2NJU,2YU,2KU,2NGGU,2GU",
     "2MU,2NU,2NYU,2O,2ON,2NGON,2HO,2HON,2WO,2WON,2PO,2BHO,2BO,2MBO,2KPO,2MGBO,2GBO,2GBON,2FO,2VO",
     "2TO,2THO,2DHO,2DHHO,2LO,2RO,2DO,2NDO,2SO,2SHO,2ZO,2ZHO,2CO,2JO,2NJO,2YO,2KO,2NGGO,2GO,2MO,2NO",
     "2NYO,2E,2EN,2NGEN,2HE,2HEN,2WE,2WEN,2PE,2BHE,2BE,2MBE,2KPE,2KPEN,2MGBE,2GBE,2GBEN,2FE,2VE,2TE",
     "2rr,2DHE,2DHHE,2LE,2RE,2DE,2NDE,2SE,2tp,2ZE,2ZHE,2CE,2JE,2NJE,2YE,2KE,2NGGE,2NGGEN,2GE,2GEN",
     "2ME,2NE,2NYE,2NG,2zk,1es,1ig gb,1fd bi,1ij NDOLE FA,3KA,3SOO,1au FEENG,2KEENG,2TING,2NII",
     "2BANG,2FAA,2TAA,2DANG,2DOONG,2KUNG,2TONG,2DO-O,2JONG,1cs et,2cr,2cj,2aw,2bt,2by,2fu,2bu,2bs",
     "2dj,1ij NDOLE MA,3DO,A640:0jy ac aa ZEMLYA,1ad aa ZEMLYA,1ac aa DZELO,1ad aa DZELO",
     "1ac aa bq DZE,1ad aa bq DZE,1ac aa ma,1ad aa ma,1ac aa DJERV,1ad aa DJERV,1ac aa MONOGRAPH UK",
     "1ad aa MONOGRAPH UK,1ac aa BROAD hm,1ad aa BROAD hm,1ac aa ia YER,1ad aa ia YER",
     "1ac aa YERU ab BACK YER,1ad aa YERU ab BACK YER,1ac aa it YAT,1ad aa it YAT,1ac aa bq YU",
     "1ad aa bq YU,1ac aa it A,1ad aa it A,1ac aa gn dz vy,1ad aa gn dz vy,1ac aa BLENDED vy",
     "1ad aa BLENDED vy,1ac aa it gn dz vy,1ad aa it gn dz vy,1ac aa YN,1ad aa YN,1ac aa bq TSE",
     "1ad aa bq TSE,1ac aa xo DE,1ad aa xo DE,1ac aa xo EL,1ad aa xo EL,1ac aa xo EM,1ad aa xo EM",
     "1ac aa MONOCULAR O,1ad aa MONOCULAR O,1ac aa BINOCULAR O,1ad aa BINOCULAR O",
     "1ac aa al MONOCULAR O,1ad aa al MONOCULAR O,1aa MULTIOCULAR O,0dk jy VZMET,2jo sd ak",
     "2az sd ak,2ba sd ak,0SLAVONIC di,0dk jy aa UKRAINIAN IE,3I,3YI,3U,3HARD ak,3YERU,3xo ak,3hm",
     "2KAVYKA,2PAYEROK,0jy KAVYKA,1PAYEROK,1ac aa DWE,1ad aa DWE,1ac aa DZWE,1ad aa DZWE",
     "1ac aa ZHWE,1ad aa ZHWE,1ac aa CCHE,1ad aa CCHE,1ac aa DZZE,1ad aa DZZE,1ac aa TE ab bb bv",
     "1ad aa TE ab bb bv,1ac aa TWE,1ad aa TWE,1ac aa TSWE,1ad aa TSWE,1ac aa TSSE,1ad aa TSSE",
     "1ac aa TCHE,1ad aa TCHE,1ac aa HWE,1ad aa HWE,1ac aa SHWE,1ad aa SHWE,1ac aa al O,1ad aa al O",
     "1ac aa me O,1ad aa me O,0ey aa jy HARD ak,3xo ak,0dk jy aa EF,3it E,0BAMUM aa A,2KA,2U,2KU",
     "2EE,2REE,2TAE,2O,2NYI,2I,2LA,2PA,2RII,2RIEE,2LEEEE,2MEEEE,2TAA,2NDAA,2NJAEM,2M,2SUU,2MU,2SHII",
     "2SI,2SHEUX,2SEUX,2KYEE,2KET,2NUAE,2NU,2NJUAE,2YOQ,2SHU,2YUQ,2YA,2NSHA,2KEUX,2PEUX,2NJEE,2NTEE",
     "2PUE,2WUE,2PEE,2FEE,2RU,2LU,2MI,2NI,2REUX,2RAE,2KEN,2NGKWAEN,2NGGA,2ke,2SHO,2PUAE,2FU,2FOM",
     "2WA,2NA,2LI,2PI,2LOQ,2KO,2MBEN,2REN,2MEN,2MA,2TI,2KI,2MO,2MBAA,2TET,2KPA,2jo,2NTUU,2SAMBA",
     "2FAAMAE,2KOVUU,2KOGHOM,1dk bi KOQNDON,3TUKWENTIS,1NJAEMLI,1ig gb,1io,1es,1ka,1fd bi",
     "A700:0ey aa CHINESE ff YIN PING,4YANG PING,4YIN SHANG,4YANG SHANG,4YIN QU,4YANG QU,4YIN RU",
     "4YANG RU,2zz ga ff gc,2fv ga ff gc,2MID ga ff gc,2in ga ff gc,2EXTRA-LOW ga ff gc",
     "2zz ga ll ff gc,2fv ga ll ff gc,2MID ga ll ff gc,2in ga ll ff gc,2EXTRA-LOW ga ll ff gc",
     "2zz ll ff gc,2fv ll ff gc,2MID ll ff gc,2in ll ff gc,2EXTRA-LOW ll ff gc,2cx an gc,3oz,3as gc",
     "2ct ai gz fp,2ii UP ae,3de ae,3dy bi,3cb dy bi,2in cb dy bi,2STRESS bh fv ff,4in ff",
     "0fo ac aa ty eb,1ad aa ty eb,1ac aa ty ul,1ad aa ty ul,1ac aa HENG,1ad aa HENG,1ac aa TZ",
     "1ad aa TZ,1ac aa TRESILLO,1ad aa TRESILLO,1ac aa CUATRILLO,1ad aa CUATRILLO",
     "1ac aa CUATRILLO ab es,1ad aa CUATRILLO ab es,1aa ad ac F,4S,1ac aa AA,1ad aa AA,1ac aa AO",
     "1ad aa AO,1ac aa AU,1ad aa AU,1ac aa AV,1ad aa AV,1ac aa AV ab as gc,1ad aa AV ab as gc",
     "1ac aa AY,1ad aa AY,1ac aa bq C ab cx,1ad aa bq C ab cx,1ac aa K ab at,1ad aa K ab at",
     "1ac aa K ab dm at,1ad aa K ab dm at,1ac aa K ab at bh dm at,1ad aa K ab at bh dm at",
     "1ac aa BROKEN L,1ad aa BROKEN L,1ac aa L ab fv at,1ad aa L ab fv at,1ac aa O ab fj at hn",
     "1ad aa O ab fj at hn,1ac aa O ab tl,1ad aa O ab tl,1ac aa OO,1ad aa OO,1ac aa P ab at la dg",
     "1ad aa P ab at la dg,1ac aa P ab zx,1ad aa P ab zx,1ac aa P ab SQUIRREL hp",
     "1ad aa P ab SQUIRREL hp,1ac aa Q ab at la dg,1ad aa Q ab at la dg,1ac aa Q ab dm at",
     "1ad aa Q ab dm at,1ac aa R ROTUNDA,1ad aa R ROTUNDA,1ac aa RUM ROTUNDA,1ad aa RUM ROTUNDA",
     "1ac aa V ab dm at,1ad aa V ab dm at,1ac aa VY,1ad aa VY,1ac aa VISIGOTHIC Z",
     "1ad aa VISIGOTHIC Z,1ac aa THORN ab at,1ad aa THORN ab at,1ac aa THORN ab at la dg",
     "1ad aa THORN ab at la dg,1ac aa VEND,1ad aa VEND,1ac aa ET,1ad aa ET,1ac aa IS,1ad aa IS",
     "1ac aa CON,1ad aa CON,0ey aa US,0fo ad aa DUM,3LUM,3MUM,3NUM,3RUM,1aa ad ac RUM,1ad aa TUM",
     "3UM,1ac aa je D,1ad aa je D,1ac aa je F,1ad aa je F,1ac aa je G,3cg je G,1ad aa cg je G",
     "1ac aa cg L,1ad aa cg L,1ac aa je R,1ad aa je R,1ac aa je S,1ad aa je S,1ac aa je T"],
    ["1ad aa je T,0ey aa in be fw,2io,2fs gm ak,0fo ac aa SALTILLO,1ad aa SALTILLO,1ac aa cg H",
     "1ad aa L ab da bv bh BELT,1aa SINOLOGICAL cx,1ac aa N ab dg,1ad aa N ab dg,1ac aa C ab gc",
     "1ad aa C ab gc,5gh bv,3H ab gh bv,1ac aa B ab zx,1ad aa B ab zx,1ac aa F ab at,1ad aa F ab at",
     "1ac aa xw AE,1ad aa xw AE,1ac aa xw OE,1ad aa xw OE,1ac aa xw UE,1ad aa xw UE",
     "1ac aa G ab kr at,1ad aa G ab kr at,1ac aa K ab kr at,1ad aa K ab kr at,1ac aa N ab kr at",
     "1ad aa N ab kr at,1ac aa R ab kr at,1ad aa R ab kr at,1ac aa S ab kr at,1ad aa S ab kr at",
     "1ac aa H ab bv,3bq fg E,3iq G,3L ab BELT,3ad ac I,1aa ad ac Q,1ac aa cg K,4T,3J ab jt,3CHI",
     "3ss,1ad aa ss,1ac aa hm,1ad aa hm,1ac aa U ab at,1ad aa U ab at,1ac aa gq A,1ad aa gq A",
     "1ac aa gq I,1ad aa gq I,1ac aa gq U,1ad aa gq U,1ac aa nb POLISH O,1ad aa nb POLISH O",
     "1ac aa ANGLICANA W,1ad aa ANGLICANA W,1ac aa C ab gh bv,3S ab bv,3Z ab gh bv,3D ab fs at hn",
     "1ad aa D ab fs at hn,1ac aa S ab fs at hn,1ad aa S ab fs at hn,A7D0:1ac aa gn je G",
     "1ad aa gn je G,A7D3:3al THORN,A7D5:4WYNN,1ac aa bb SCOTS S,1ad aa bb SCOTS S,1ac aa SIGMOID S",
     "1ad aa SIGMOID S,A7F2:0ey aa ac C,3F,3Q,0fo ac aa bq dd H,1ad aa bq dd H,1EPIGRAPHIC aa oj I",
     "0ey aa ac H ab at,2ad el OE,0fo aa ad ac cg M,1EPIGRAPHIC aa bq F,4P,3cb M,3I LONGA,3iw M",
     "0SYLOTI NAGRI aa A,3I,2ak DVISVARA,2aa U,3E,3O,2ak HASANTA,2aa KO,3KHO,3GO,3GHO,2ak cv,2aa CO",
     "3CHO,3JO,3JHO,3TTO,3TTHO,3DDO,3DDHO,3TO,3THO,3DO,3DHO,3NO,3PO,3PHO,3BO,3BHO,3MO,3RO,3LO,3RRO",
     "3SO,3HO,2cm ak A,4I,4U,4E,4OO,2POETRY MARK-1,3MARK-2,3MARK-3,3MARK-4,2ak fr HASANTA",
     "A830:0gg INDIC ht cr fm,4dd,3aw jh,3cr ta,4ie,3aw yt,2fm bi,2PLACEHOLDER bi,2RUPEE bi",
     "2QUANTITY bi,A840:0PHAGS-PA aa KA,2lf,2GA,2ke,2CA,2kz,2JA,2lb,2TA,2lp,2DA,2NA,2PA,2mz,2BA,2MA",
     "2vu,2wc,2DZA,2WA,2ZHA,2ZA,2ad A,2YA,2RA,2LA,2kf,2SA,2HA,2A,2I,2U,2E,2O,2QA,2XA,2FA,2GGA,2EE",
     "1sy aa WA,3YA,1aa nu,2jl,2or,2pp,2fr YA,2VOICELESS kf,2ru HA,2ASPIRATED FA,1sy aa RA",
     "1SUPERFIXED aa RA,1aa dh,1cw sk bi,1al sk bi,1bi uu,2al uu,A880:0SAURASHTRA ak cv,2ex,1aa A",
     "2AA,2I,2II,2U,2UU,2cy R,3RR,3L,3LL,2E,2EE,2AI,2O,2OO,2AU,2KA,2lf,2GA,2oo,2ke,2CA,2kz,2JA,2tf",
     "2lb,2nu,2jl,2or,2jx,2pp,2TA,2lp,2DA,2ov,2NA,2PA,2mz,2BA,2py,2MA,2YA,2RA,2LA,2VA,2kf,2qz,2SA",
     "2HA,2xe,1fq ak HAARU,1cm ak AA,3I,3II,3U,3UU,3cy R,4RR,4L,4LL,3E,3EE,3AI,3O,3OO,3AU,1ak fk",
     "2dh,A8CE:1jc,1al jc,1cs et,2cr,2cj,2aw,2bt,2by,2fu,2bu,2bs,2dj,A8E0:0dk DEVANAGARI cs et,3cr",
     "3cj,3aw,3bt,3by,3fu,3bu,3bs,3dj,2aa A,3U,3KA,3NA,3PA,3RA,3VI,2ak iv,0DEVANAGARI ak SPACING dh",
     "2dh fk,2al dh fk,2dh cj,3aw,3iv,2PUSHPIKA,1GAP uh,1xk,1HEADSTROKE,1ak ut,1JAIN OM,1aa AY",
     "1cm ak AY,0KAYAH LI cs et,3cr,3cj,3aw,3bt,3by,3fu,3bu,3bs,3dj,2aa KA,3lf,3GA,3ke,3SA,3kf,3ZA",
     "3lb,3TA,3HTA,3NA,3PA,3mz,3MA,3DA,3BA,3RA,3YA,3LA,3WA,3lp,3HA,3VA,3CA,3A,3OE,3I,3OO,2cm UE,3E",
     "3U,3EE,3O,2ff PLOPHU,3CALYA,4PLOPHU,2ak CWI,3SHYA,0REJANG aa KA,2GA,2ke,2TA,2DA,2NA,2PA,2BA",
     "2MA,2CA,2JA,2lb,2SA,2RA,2LA,2YA,2WA,2HA,2MBA,2NGGA,2NDA,2NYJA,2A,1cm ak I,3U,3E,3AI,3O,3AU",
     "3EU,3EA,1fq ak NG,3N,3R,3H,1fk,A95F:1hi bi,0sl CHOSEONG TIKEUT-MIEUM,2TIKEUT-PIEUP",
     "2TIKEUT-SIOS,2TIKEUT-CIEUC,2ux,2RIEUL-SSANGKIYEOK,2RIEUL-TIKEUT,2RIEUL-SSANGTIKEUT,2xa,2wz",
     "2RIEUL-SSANGPIEUP,2RIEUL-KAPYEOUNPIEUP,2yy,2RIEUL-CIEUC,2RIEUL-KHIEUKH,2MIEUM-KIYEOK",
     "2MIEUM-TIKEUT,2MIEUM-SIOS,2PIEUP-SIOS-THIEUTH,2PIEUP-KHIEUKH,2PIEUP-HIEUH,2SSANGSIOS-PIEUP",
     "2IEUNG-RIEUL,2IEUNG-HIEUH,2SSANGCIEUC-HIEUH,2SSANGTHIEUTH,2PHIEUPH-HIEUH,2HIEUH-SIOS",
     "2SSANGYEORINHIEUH,A980:0JAVANESE ak PANYANGGA,2CECAK,2LAYAR,2WIGNYAN,1aa A,2I KAWI,2I,2II,2U",
     "2PA CEREK,2ke LELET,4RASWADI,2E,2AI,2O,2KA,3SASAK,3vb,2GA,3vb,2ke,2CA,3vb,2JA,2lb vb,2JA nx",
     "2lb,2nu,3nx,2or,3nx,2NA vb,2TA,3vb,2DA,3nx,2NA,2PA,3vb,2BA,3vb,2MA,2YA,2RA,3AGUNG,2LA,2WA",
     "2SA vb,3nx,2SA,2HA,1ak CECAK TELU,1cm ak TARUNG,3TOLONG,3WULU,4MELIK,3SUKU,4MENDUT,3TALING",
     "3DIRGA MURE,3PEPET,1fq ak KERET,3PENGKAL,3CAKRA,1PANGKON,1av RERENGGAN,1ai RERENGGAN",
     "1PADA ANDAP,2MADYA,2LUHUR,2WINDU,2PANGKAT,2LINGSA,2LUNGSI,2ADEG,3ADEG,2PISELEH",
     "1cg PADA PISELEH,A9CF:1PANGRANGKEP,1cs et,2cr,2cj,2aw,2bt,2by,2fu,2bu,2bs,2dj",
     "A9DE:1PADA TIRTA TUMETES,2ISEN-ISEN,0MYANMAR aa SHAN oo,3kz,3tf,3pp,3py,1ak SHAN SAW",
     "1ey aa SHAN REDUPLICATION,1aa TAI LAING lb,4FA,4GA,4oo,4JA,4tf,4or,4jx,4pp,1TAI LAING cs et",
     "4cr,4cj,4aw,4bt,4by,4fu,4bu,4bs,4dj,1aa TAI LAING xe,4DA,4ov,4BA,4py,AA00:0CHAM aa A,2I,2U,2E",
     "2AI,2O,2KA,2lf,2GA,2oo,2NGUE,2ke,2kz,2CHHA,2JA,2tf,2NHUE,2NHA,2NHJA,2TA,2lp,2DA,2ov,2NUE,2NA",
     "2or,2PA,2PPA,2mz,2BA,2py,2MUE,2MA,2BBA,2YA,2RA,2LA,2VA,2qz,2SA,2HA,1cm ak AA,3I,3II,3EI,3U",
     "3OE,3O,3AI,3AU,3UE,1fq ak YA,3RA,3LA,3WA,AA40:1aa ar K,3G,3NG,1fq ak ar NG,1aa ar CH,3T,3N,3P",
     "3Y,3R,3L,3SS,1fq ak ar M,4H,AA50:1cs et,2cr,2cj,2aw,2bt,2by,2fu,2bu,2bs,2dj,AA5C:1cc SPIRAL",
     "2jc,2al jc,2eq jc,0MYANMAR aa KHAMTI GA,3CA,3kz,3JA,3tf,3lb,3nu,3jl,3or,3jx,3ov,3NA,3SA,3HA",
     "3HHA,3FA,1ey aa KHAMTI REDUPLICATION,1aa KHAMTI XA,3ZA,3RA,1zj KHAMTI OAY,3QN,3HM",
     "1au AITON dy,3cr,3cj,1aa AITON RA,1ak PAO zn ff,2TAI LAING rw,4rv,1aa SHWE PALAUNG kz,4kf",
     "0TAI VIET aa in KO,3fv KO,3in KHO,3fv KHO,3in KHHO,3fv KHHO,3in GO,3fv GO,3in NGO,3fv NGO",
     "3in CO,3fv CO,3in CHO,3fv CHO,3in SO,3fv SO,3in NYO,3fv NYO,3in DO,3fv DO,3in TO,3fv TO",
     "3in THO,3fv THO,3in NO,3fv NO,3in BO,3fv BO,3in PO,3fv PO,3in PHO,3fv PHO,3in FO,3fv FO",
     "3in MO,3fv MO,3in YO,3fv YO,3in RO,3fv RO,3in LO,3fv LO,3in VO,3fv VO,3in HO,3fv HO,3in O",
     "3fv O,2MAI KANG,2cm AA,3I,3UE,3U,3E,3O,2MAI KHIT,2cm IA,3UEA,3UA,3AUE,3AY,3AN,3AM,2ff MAI EK",
     "4NUENG,4THO,4SONG,AADB:2au KON,3NUENG,3SAM,3HO HOI,3KOI KOI,0MEETEI MAYEK aa E,3O,3kz,3lb,3nu",
     "3jl,3or,3jx,3pp,3kf,3qz,2cm ak II,4UU,4AAI,4AU,4AAU,2CHEIKHAN,2AHANG KHUDAM,2ANJI",
     "2ij REPETITION bi,2wa REPETITION bi,2cm ak ex,2fk,AB01:0ETHIOPIC ij TTHU,2TTHI,2TTHAA,2TTHEE",
     "2TTHE,2TTHO,AB09:2DDHU,2DDHI,2DDHAA,2DDHEE,2DDHE,2DDHO,AB11:2DZU,2DZI,2DZAA,2DZEE,2DZE,2DZO",
     "AB20:2CCHHA,2CCHHU,2CCHHI,2CCHHAA,2CCHHEE,2CCHHE,2CCHHO,AB28:2BBA,2BBU,2BBI,2BBAA,2BBEE,2BBE"],
    ["2BBO,AB30:0fo ad aa su im,3A REVERSED-SCHWA,3BLACKLETTER E,3su E,3E ab zx,3LENIS F",
     "3iq G ab jt,3L ab cb LAZY S,5al bb cq,5bb ei,3M ab jt,3N ab jt,3ENG ab jt,3BLACKLETTER O",
     "5ab at,3fg O ab at,3cb OE,3cg OE ab at,6as at,4O OPEN-O,6ab at,3STIRRUP R",
     "1aa ad ac R ab ai LEG,1ad aa R WITHOUT HANDLE,3al R,3R ab jt,3al R ab jt,3iq R,5ab ei",
     "3BASELINE ESH,3U ab fs ai LEG,4gc ab fs ai LEG,3UI,3cg UI,3U ab av bv,3CHI,4ab in ai ei",
     "6av SERIF,3X ab in ai ei,5fj av LEG,8bh in ai ei,8ab SERIF,3Y ab fs ai LEG,0ey fe ab cb fe",
     "1aa ad HENG,3L ab cb LAZY S,5bb cq,3U ab av bv,0fo ad aa SAKHA YAT,3it E,3fg OE,3UO,3cb im",
     "0kn aa ad ac hm,0fo ad aa DZ gr ab da bv,3TS gr ab da bv,3cg R ab bb cq,0ey aa ad cg W,2av kw",
     "2ai kw,AB70:0CHEROKEE ad aa A,3E,3I,3O,3U,3V,3GA,3KA,3GE,3GI,3GO,3GU,3GV,3HA,3HE,3HI,3HO,3HU",
     "3HV,3LA,3LE,3LI,3LO,3LU,3LV,3MA,3ME,3MI,3MO,3MU,3NA,3HNA,3NAH,3NE,3NI,3NO,3NU,3NV,3QUA,3QUE",
     "3QUI,3QUO,3QUU,3QUV,3SA,3S,3SE,3SI,3SO,3SU,3SV,3DA,3TA,3DE,3TE,3DI,3TI,3DO,3DU,3DV,3DLA,3TLA",
     "3TLE,3TLI,3TLO,3TLU,3TLV,3vu,3TSE,3TSI,3TSO,3TSU,3TSV,3WA,3WE,3WI,3WO,3WU,3WV,3YA",
     "0MEETEI MAYEK aa KOK,3SAM,3LAI,3MIT,3PA,3NA,3CHIL,3TIL,3KHOU,3NGOU,3THOU,3WAI,3YANG,3HUK,3UN",
     "3I,3PHAM,3ATIYA,3GOK,3JHAM,3RAI,3BA,3JIL,3DIL,3GHOU,3DHOU,3BHAM,3KOK wj,3LAI wj,3MIT wj",
     "3PA wj,3NA wj,3TIL wj,3NGOU wj,3I wj,2cm ak ONAP,4INAP,4ANAP,4YENAP,4SOUNAP,4UNAP,4CHEINAP",
     "4NUNG,2CHEIKHEI,2LUM IYEK,2APUN IYEK,ABF0:2cs et,3cr,3cj,3aw,3bt,3by,3fu,3bu,3bs,3dj",
     "D7B0:0sl JUNGSEONG O-YEO,2O-O-I,2YO-A,2YO-AE,2YO-EO,2U-YEO,2U-I-I,2YU-AE,2YU-O,2EU-A,2EU-EO",
     "2EU-E,2EU-O,2I-YA-O,2I-YAE,2I-YEO,2I-YE,2I-O-I,2I-YO,2I-YU,2I-I,2ARAEA-A,2ARAEA-E",
     "D7CB:1JONGSEONG NIEUN-RIEUL,2NIEUN-CHIEUCH,2wv,2SSANGTIKEUT-PIEUP,2TIKEUT-PIEUP,2TIKEUT-SIOS",
     "2TIKEUT-SIOS-KIYEOK,2TIKEUT-CIEUC,2TIKEUT-CHIEUCH,2TIKEUT-THIEUTH,2RIEUL-SSANGKIYEOK",
     "2RIEUL-KIYEOK-HIEUH,2SSANGRIEUL-KHIEUKH,2RIEUL-MIEUM-HIEUH,2RIEUL-PIEUP-TIKEUT",
     "2RIEUL-PIEUP-PHIEUPH,2RIEUL-YESIEUNG,2RIEUL-YEORINHIEUH-HIEUH,2KAPYEOUNRIEUL,2MIEUM-NIEUN",
     "2MIEUM-SSANGNIEUN,2SSANGMIEUM,2MIEUM-PIEUP-SIOS,2MIEUM-CIEUC,2PIEUP-TIKEUT",
     "2PIEUP-RIEUL-PHIEUPH,2PIEUP-MIEUM,2yq,2va,2PIEUP-CIEUC,2PIEUP-CHIEUCH,2SIOS-MIEUM",
     "2SIOS-KAPYEOUNPIEUP,2SSANGSIOS-KIYEOK,2SSANGSIOS-TIKEUT,2SIOS-PANSIOS,2SIOS-CIEUC",
     "2SIOS-CHIEUCH,2SIOS-THIEUTH,2SIOS-HIEUH,2PANSIOS-PIEUP,2PANSIOS-KAPYEOUNPIEUP,2YESIEUNG-MIEUM",
     "2YESIEUNG-HIEUH,2CIEUC-PIEUP,2CIEUC-SSANGPIEUP,2yr,2PHIEUPH-SIOS,2PHIEUPH-THIEUTH",
     "FB00:0fo ad el FF,3FI,3FL,3FFI,3FFL,3fj S T,3ST,FB13:0ARMENIAN ad el MEN NOW,4ECH,4INI",
     "3VEW NOW,3MEN XEH,FB1D:0HEBREW aa YOD ab HIRIQ,1rz JUDEO-SPANISH VARIKA",
     "1el YIDDISH YOD YOD PATAH,1aa ALTERNATIVE AYIN,2WIDE eb,3DALET,3HE,3vv,3LAMED,3ar MEM,3yz",
     "3TAV,2ALTERNATIVE cz ak,2mj ab mj cx,4SIN cx,4ja bh mj cx,6SIN cx,2eb ab PATAH,4QAMATS,4MAPIQ",
     "2BET ab ja,2pj ab ja,2DALET ab ja,2HE ab MAPIQ,2VAV ab ja,2rk ab ja,FB38:2TET ab ja",
     "2YOD ab ja,2ar vv ab ja,2vv ab ja,2LAMED ab ja,FB3E:2MEM ab ja,FB40:2ow ab ja,2lq ab ja",
     "FB43:2ar PE ab ja,2PE ab ja,FB46:2TSADI ab ja,2QOF ab ja,2yz ab ja,2mj ab ja,2TAV ab ja",
     "2VAV ab HOLAM,2BET ab RAFE,2vv ab RAFE,2PE ab RAFE,1el eb LAMED,0ko aa eb WASLA ag af,4ar af",
     "2BEEH ag af,3ar af,3ap af,3cf af,2PEH ag af,3ar af,3ap af,3cf af,2BEHEH ag af,3ar af,3ap af",
     "3cf af,2TTEHEH ag af,3ar af,3ap af,3cf af,2TEHEH ag af,3ar af,3ap af,3cf af,2TTEH ag af",
     "3ar af,3ap af,3cf af,2VEH ag af,3ar af,3ap af,3cf af,2PEHEH ag af,3ar af,3ap af,3cf af",
     "2DYEH ag af,3ar af,3ap af,3cf af,2NYEH ag af,3ar af,3ap af,3cf af,2TCHEH ag af,3ar af,3ap af",
     "3cf af,2TCHEHEH ag af,3ar af,3ap af,3cf af,2DDAHAL ag af,3ar af,2DAHAL ag af,3ar af",
     "2DUL ag af,3ar af,2DDAL ag af,3ar af,2JEH ag af,3ar af,2RREH ag af,3ar af,2KEHEH ag af,3ar af",
     "3ap af,3cf af,2GAF ag af,3ar af,3ap af,3cf af,2GUEH ag af,3ar af,3ap af,3cf af,2NGOEH ag af",
     "3ar af,3ap af,3cf af,2kb GHUNNA ag af,4ar af,2RNOON ag af,3ar af,3ap af,3cf af",
     "2wo ab he aj ag af,6ar af,3GOAL ag af,4ar af,4ap af,4cf af,3DOACHASHMEE ag af,4ar af,4ap af",
     "4cf af,2he BARREE ag af,4ar af,4ab ib aj ag af,7ar af,1au cx aj,3aq,2cj du aj,4aq,2aw du aj",
     "4aq,4ca ay aj,6aq,2bt du aj,4aq,2al an gc aq,2cj du oe aj,5aq,2ei,2ad wu aj,4aq,2WASLA aj",
     "FBD3:1aa NG ag af,3ar af,3ap af,3cf af,2U ag af,3ar af,2OE ag af,3ar af,2YU ag af,3ar af",
     "2U ab ib aj ag af,2VE ag af,3ar af,2KIRGHIZ OE ag af,4ar af,3YU ag af,4ar af,2E ag af,3ar af",
     "3ap af,3cf af,2UIGHUR KAZAKH KIRGHIZ eb cl ap af,7cf af,1el he ab ib aj ab eb ag af,8ar af",
     "7AE ag af,8ar af,7rq ag af,8ar af,7U ag af,8ar af,7OE ag af,8ar af,7YU ag af,8ar af,7E ag af",
     "8ar af,8ap af,2UIGHUR KIRGHIZ he ab ib aj ab eb cl ag af,Bar af,Bap af,1aa FARSI he ag af",
     "4ar af,4ap af,4cf af,1el he ab ib aj ab fi ag af,7iu ag af,7cu ag af,7eb cl ag af,7he ag af",
     "2BEH ab fi ag af,4iu ag af,4hw ag af,4cu ag af,4eb cl ag af,4he ag af,2TEH ab fi ag af",
     "4iu ag af,4hw ag af,4cu ag af,4eb cl ag af,4he ag af,2THEH ab fi ag af,4cu ag af,4eb cl ag af",
     "4he ag af,2fi ab iu ag af,4cu ag af,2iu ab fi ag af,4cu ag af,2hw ab fi ag af,4iu ag af",
     "4cu ag af,2ne ab fi ag af,4iu ag af,4hw ag af,4cu ag af,2SAD ab iu ag af,4cu ag af",
     "2DAD ab fi ag af,4iu ag af,4hw ag af,4cu ag af,2wu ab iu ag af,4cu ag af,2ZAH ab cu ag af",
     "2ul ab fi ag af,4cu ag af,2on ab fi ag af,4cu ag af,2FEH ab fi ag af,4iu ag af,4hw ag af",
     "4cu ag af,4eb cl ag af,4he ag af,2xx ab iu ag af,4cu ag af,4eb cl ag af,4he ag af",
     "2vv ab eb ag af,4fi ag af,4iu ag af,4hw ag af,4sf ag af,4cu ag af,4eb cl ag af,4he ag af",
     "2sf ab fi ag af,4iu ag af,4hw ag af,4cu ag af,4eb cl ag af,4he ag af,2cu ab fi ag af",
     "4iu ag af,4hw ag af,4cu ag af,4eb cl ag af,4he ag af,2kb ab fi ag af,4iu ag af,4hw ag af",
     "4cu ag af,4eb cl ag af,4he ag af,2wo ab fi ag af,4cu ag af,4eb cl ag af,4he ag af",
     "2he ab fi ag af,4iu ag af,4hw ag af,4cu ag af,4eb cl ag af,4he ag af,2THAL ab hq eb ag af"],
    ["2uy ab hq eb ag af,2eb cl ab hq eb ag af,2SHADDA ab DAMMATAN ag af,4zm ag af,4tx ag af",
     "4xj ag af,4sg ag af,4hq eb ag af,2he ab ib aj ab uy ar af,7vx ar af,7cu ar af,7kb ar af",
     "7eb cl ar af,7he ar af,2BEH ab uy ar af,4vx ar af,4cu ar af,4kb ar af,4eb cl ar af,4he ar af",
     "2TEH ab uy ar af,4vx ar af,4cu ar af,4kb ar af,4eb cl ar af,4he ar af,2THEH ab uy ar af",
     "4vx ar af,4cu ar af,4kb ar af,4eb cl ar af,4he ar af,2FEH ab eb cl ar af,4he ar af",
     "2xx ab eb cl ar af,4he ar af,2vv ab eb ar af,4sf ar af,4cu ar af,4eb cl ar af,4he ar af",
     "2sf ab cu ar af,4eb cl ar af,4he ar af,2cu ab eb ar af,4cu ar af,2kb ab uy ar af,4vx ar af",
     "4cu ar af,4kb ar af,4eb cl ar af,4he ar af,2eb cl ab hq eb ar af,2he ab uy ar af,4vx ar af",
     "4cu ar af,4kb ar af,4eb cl ar af,4he ar af,4ib aj ab fi ap af,7iu ap af,7hw ap af,7cu ap af",
     "7wo ap af,2BEH ab fi ap af,4iu ap af,4hw ap af,4cu ap af,4wo ap af,2TEH ab fi ap af,4iu ap af",
     "4hw ap af,4cu ap af,4wo ap af,2THEH ab cu ap af,2fi ab iu ap af,4cu ap af,2iu ab fi ap af",
     "4cu ap af,2hw ab fi ap af,4cu ap af,2ne ab fi ap af,4iu ap af,4hw ap af,4cu ap af",
     "2SAD ab iu ap af,4hw ap af,4cu ap af,2DAD ab fi ap af,4iu ap af,4hw ap af,4cu ap af",
     "2wu ab iu ap af,2ZAH ab cu ap af,2ul ab fi ap af,4cu ap af,2on ab fi ap af,4cu ap af",
     "2FEH ab fi ap af,4iu ap af,4hw ap af,4cu ap af,2xx ab iu ap af,4cu ap af,2vv ab fi ap af",
     "4iu ap af,4hw ap af,4sf ap af,4cu ap af,2sf ab fi ap af,4iu ap af,4hw ap af,4cu ap af",
     "4wo ap af,2cu ab fi ap af,4iu ap af,4hw ap af,4cu ap af,2kb ab fi ap af,4iu ap af,4hw ap af",
     "4cu ap af,4wo ap af,2wo ab fi ap af,4cu ap af,4hq eb ap af,2he ab fi ap af,4iu ap af",
     "4hw ap af,4cu ap af,4wo ap af,4ib aj ab cu cf af,7wo cf af,2BEH ab cu cf af,4wo cf af",
     "2TEH ab cu cf af,4wo cf af,2THEH ab cu cf af,4wo cf af,2ne ab cu cf af,4wo cf af",
     "2my ab cu cf af,4wo cf af,2vv ab sf cf af,4cu cf af,2sf ab cu cf af,2kb ab cu cf af,4wo cf af",
     "2he ab cu cf af,4wo cf af,2SHADDA ab tx cf af,4xj cf af,4sg cf af,2wu ab eb cl ag af",
     "4he ag af,2ul ab eb cl ag af,4he ag af,2on ab eb cl ag af,4he ag af,2ne ab eb cl ag af",
     "4he ag af,2my ab eb cl ag af,4he ag af,2iu ab eb cl ag af,4he ag af,2fi ab eb cl ag af",
     "4he ag af,2hw ab eb cl ag af,4he ag af,2SAD ab eb cl ag af,4he ag af,2DAD ab eb cl ag af",
     "4he ag af,2my ab fi ag af,4iu ag af,4hw ag af,4cu ag af,4uy ag af,2ne ab uy ag af",
     "2SAD ab uy ag af,2DAD ab uy ag af,2wu ab eb cl ar af,4he ar af,2ul ab eb cl ar af,4he ar af",
     "2on ab eb cl ar af,4he ar af,2ne ab eb cl ar af,4he ar af,2my ab eb cl ar af,4he ar af",
     "2iu ab eb cl ar af,4he ar af,2fi ab eb cl ar af,4he ar af,2hw ab eb cl ar af,4he ar af",
     "2SAD ab eb cl ar af,4he ar af,2DAD ab eb cl ar af,4he ar af,2my ab fi ar af,4iu ar af",
     "4hw ar af,4cu ar af,4uy ar af,2ne ab uy ar af,2SAD ab uy ar af,2DAD ab uy ar af",
     "2my ab fi ap af,4iu ap af,4hw ap af,4cu ap af,2ne ab wo ap af,2my ab wo ap af,2wu ab cu ap af",
     "2ne ab fi cf af,4iu cf af,4hw cf af,2my ab fi cf af,4iu cf af,4hw cf af,2wu ab cu cf af",
     "2ZAH ab cu cf af,2eb ab vm ar af,5ag af,0ORNATE av ce,1ai ce,0ko el RAHIMAHU ALLAAH",
     "2RADI ALLAAHU ANH,4ANHAA,4ANHUM,4ANHUMAA,4ANHUNNA,2SALLALLAAHU ALAYHI WA-AALIH",
     "2ALAYHI AS-SALAAM,2ALAYHIM AS-SALAAM,2ALAYHIMAA AS-SALAAM,2ALAYHI AS-SALAATU WAS-SALAAM",
     "2QUDDISA SIRRAH,2SALLALLAHU ALAYHI WAAALIHEE WA-SALLAM,2ALAYHAA AS-SALAAM",
     "2TABAARAKA WA-TAAALAA,2RAHIMAHUM ALLAAH,2TEH ab fi ab cu ap af,4iu ab fi ar af,7ap af",
     "6cu ap af,4hw ab cu ap af,4cu ab fi ap af,6iu ap af,6hw ap af,2fi ab cu ab iu ar af,7ap af",
     "2iu ab cu ab he ar af,6eb cl ar af,2ne ab iu ab fi ap af,4fi ab iu ap af,6eb cl ar af",
     "4cu ab iu ar af,7ap af,6fi ap af,6cu ar af,7ap af,2SAD ab iu ab iu ar af,7ap af",
     "4cu ab cu ar af,2my ab iu ab cu ar af,7ap af,4fi ab he ar af,4cu ab hw ar af,7ap af,6cu ar af",
     "7ap af,2DAD ab iu ab eb cl ar af,4hw ab cu ar af,7ap af,2wu ab cu ab iu ar af,7ap af",
     "6cu ap af,6he ar af,2ul ab fi ab cu ar af,4cu ab cu ar af,7ap af,6eb cl ar af",
     "2on ab cu ab cu ar af,6he ar af,6eb cl ar af,2FEH ab hw ab cu ar af,7ap af",
     "2xx ab cu ab iu ar af,6cu ar af,2sf ab iu ab cu ar af,6he ar af,6eb cl ar af,4fi ab fi ap af",
     "7ar af,4hw ab cu ar af,7ap af,4cu ab iu ar af,7ap af,2cu ab iu ab fi ap af,6cu ap af",
     "6he ar af,4fi ab iu ap af,6cu ap af,4hw ab fi ap af,6cu ap af,FD92:4fi ab hw ap af",
     "2wo ab cu ab fi ap af,6cu ap af,2kb ab iu ab cu ap af,6eb cl ar af,4fi ab cu ar af,7ap af",
     "6eb cl ar af,4cu ab he ar af,6eb cl ar af,2he ab cu ab cu ar af,7ap af,2BEH ab hw ab he ar af",
     "2TEH ab fi ab he ar af,6eb cl ar af,4hw ab he ar af,6eb cl ar af,4cu ab he ar af,6eb cl ar af",
     "2fi ab cu ab he ar af,4iu ab eb cl ar af,4cu ab eb cl ar af,2ne ab hw ab eb cl ar af",
     "2SAD ab iu ab he ar af,2my ab iu ab he ar af,2DAD ab iu ab he ar af,2sf ab fi ab he ar af",
     "4cu ab he ar af,2he ab iu ab he ar af,4fi ab he ar af,4cu ab he ar af,2cu ab cu ab he ar af",
     "2xx ab cu ab he ar af,2kb ab iu ab he ar af,2xx ab cu ab iu ap af,2sf ab iu ab cu ap af",
     "2ul ab cu ab he ar af,2vv ab cu ab he ar af,2kb ab fi ab iu ap af,2cu ab hw ab he ar af",
     "2sf ab fi ab cu ap af,2vv ab cu ab cu ar af,2sf ab fi ab cu ar af,2kb ab fi ab iu ar af",
     "2fi ab iu ab he ar af,2iu ab fi ab he ar af,2cu ab fi ab he ar af,2FEH ab cu ab he ar af",
     "2BEH ab iu ab he ar af,2vv ab cu ab cu ap af,2ul ab fi ab cu ap af,2SAD ab cu ab cu ap af",
     "2ne ab hw ab he ar af,2kb ab fi ab he ar af,FDCF:2SALAAMUHU ALAYNAA",
     "FDF0:2SALLA USED AS KORANIC gb ak ag af,2QALA USED AS KORANIC gb ak ag af,2ALLAH ag af",
     "2AKBAR ag af,2MOHAMMAD ag af,2SALAM ag af,2RASOUL ag af,2ALAYHE ag af,2WASALLAM ag af",
     "2SALLA ag af,2SALLALLAHOU ALAYHE WASALLAM,2JALLAJALALOUHOU,0RIAL ak",
     "0ko el BISMILLAH AR-RAHMAN AR-RAHEEM,2SUBHAANAHU WA TAAALAA,2AZZA WA JALL,0wb SELECTOR-1"],
    ["1SELECTOR-2,1SELECTOR-3,1SELECTOR-4,1SELECTOR-5,1SELECTOR-6,1SELECTOR-7,1SELECTOR-8",
     "1SELECTOR-9,1SELECTOR-10,1SELECTOR-11,1SELECTOR-12,1SELECTOR-13,1SELECTOR-14,1SELECTOR-15",
     "1SELECTOR-16,0uz af rp an es,4gv es,5ig gb,4io,4ka,4dy bi,4fd bi,4av bc le bd",
     "4ai bc le BRAKCET,4as qr,FE20:0dk el av dd,2ai dd,1al cq av dd,3ai dd,1dp av dd,2ai dd",
     "1CONJOINING dp,1el av dd aq,2ai dd aq,1cq av dd aq,2ai dd aq,1dp av dd aq,2ai dd aq",
     "1CONJOINING dp aq,1jy TITLO av dd,3ai dd,0uz af rp an cj cx LEADER,4EM jn,4EN jn,4in fz",
     "4WAVY in fz,4av ce,4ai ce,4av kd bd,4ai kd bd,4av if kt bd,4ai if kt bd,4av ax le bd",
     "4ai ax le bd,4av al fp bd,4ai al fp bd,4av fp bd,4ai fp bd,4av gz bd,4ai gz bd,4av bc gz bd",
     "4ai bc gz bd,0SESAME cx,0bc SESAME cx,0uz af rp an av bn bd,4ai bn bd,0os qi,0CENTRELINE qi",
     "0WAVY qi,0al WAVY qi,0os in fz,0CENTRELINE in fz,0WAVY in fz,0ad es,1gv es,1ig gb,FE54:1ka",
     "1io,1fd bi,1dy bi,1EM jn,1av ce,1ai ce,1av kd bd,1ai kd bd,1av if kt bd,1ai if kt bd,1dr ak",
     "1oc,1di,1cz ak,1vj,1bw ak,1bj ak,1gm ak,FE68:1hz hh,1DOLLAR ak,1PERCENT ak,1ui AT",
     "FE70:0ko vm ag af,1TATWEEL ab vm aj,1DAMMATAN ag af,1hp FRAGMENT,1zm ag af,FE76:1tx ag af",
     "2cf af,1xj ag af,2cf af,1sg ag af,2cf af,1SHADDA ag af,2cf af,1SUKUN ag af,2cf af",
     "1aa ib ag af,2eb ab zi aj ag af,6ar af,4ib aj ag af,6ar af,2rq ab ib aj ag af,6ar af",
     "2eb ab ib aq ag af,6ar af,2he ab ib aj ag af,6ar af,6ap af,6cf af,2eb ag af,3ar af,2BEH ag af",
     "3ar af,3ap af,3cf af,2TEH MARBUTA ag af,4ar af,3ag af,3ar af,3ap af,3cf af,2THEH ag af,3ar af",
     "3ap af,3cf af,2fi ag af,3ar af,3ap af,3cf af,2iu ag af,3ar af,3ap af,3cf af,2hw ag af,3ar af",
     "3ap af,3cf af,2DAL ag af,3ar af,2THAL ag af,3ar af,2uy ag af,3ar af,2vx ag af,3ar af",
     "2ne ag af,3ar af,3ap af,3cf af,2my ag af,3ar af,3ap af,3cf af,2SAD ag af,3ar af,3ap af,3cf af",
     "2DAD ag af,3ar af,3ap af,3cf af,2wu ag af,3ar af,3ap af,3cf af,2ZAH ag af,3ar af,3ap af",
     "3cf af,2ul ag af,3ar af,3ap af,3cf af,2on ag af,3ar af,3ap af,3cf af,2FEH ag af,3ar af,3ap af",
     "3cf af,2xx ag af,3ar af,3ap af,3cf af,2vv ag af,3ar af,3ap af,3cf af,2sf ag af,3ar af,3ap af",
     "3cf af,2cu ag af,3ar af,3ap af,3cf af,2kb ag af,3ar af,3ap af,3cf af,2wo ag af,3ar af,3ap af",
     "3cf af,2rq ag af,3ar af,2eb cl ag af,4ar af,2he ag af,3ar af,3ap af,3cf af",
     "1el sf ab eb ab zi aj ag af,8ar af,6ib aj ag af,8ar af,7aq ag af,8ar af,5ag af,5ar af",
     "FEFF:0et WIDTH NO-BREAK lj,FF01:0FULLWIDTH dy bi,1eh bi,1dr ak,1DOLLAR ak,1PERCENT ak,1oc,1li",
     "1av ce,1ai ce,1di,1cz ak,1es,1vj,1ig gb,1hh,1cs et,2cr,2cj,2aw,2bt,2by,2fu,2bu,2bs,2dj,1io",
     "1ka,1bw ak,1gm ak,1bj ak,1fd bi,1ui AT,1fo ac aa A,4B,4C,4D,4E,4F,4G,4H,4I,4J,4K,4L,4M,4N,4O",
     "4P,4Q,4R,4S,4T,4U,4V,4W,4X,4Y,4Z,1av bn bd,1hz hh,1ai bn bd,1be fw,1in fz,1ef fw,1fo ad aa A",
     "4B,4C,4D,4E,4F,4G,4H,4I,4J,4K,4L,4M,4N,4O,4P,4Q,4R,4S,4T,4U,4V,4W,4X,4Y,4Z,1av kd bd,1an fz",
     "1ai kd bd,1cq,1av bc ce,1ai bc ce,0HALFWIDTH gv ig gb,1av gz bd,1ai gz bd,1gv es,1lz bb cx",
     "2aa WO,3ad A,4I,4U,4E,4O,4YA,4YU,4YO,4TU,1ly PROLONGED oh bi,1lz aa A,3I,3U,3E,3O,3KA,3KI,3KU",
     "3KE,3KO,3SA,3SI,3SU,3SE,3SO,3TA,3TI,3TU,3TE,3TO,3NA,3NI,3NU,3NE,3NO,3HA,3HI,3HU,3HE,3HO,3MA",
     "3MI,3MU,3ME,3MO,3YA,3YU,3YO,3RA,3RI,3RU,3RE,3RO,3WA,3N,2ru oh bi,2SEMI-VOICED oh bi,1sl uh",
     "2aa wl,3ww,3KIYEOK-SIOS,3NIEUN,3xd,3xc,3wd,3wv,3RIEUL,3ux,3xa,3wz,3yy,3RIEUL-THIEUTH",
     "3RIEUL-PHIEUPH,3xb,3MIEUM,3PIEUP,3yq,3zb,3SIOS,3SSANGSIOS,3zq,3CIEUC,3yr,3ti,3te,3sw,3tc",
     "3HIEUH,FFC2:3A,3AE,3YA,3YAE,3EO,3E,FFCA:3YEO,3YE,3O,3WA,3WAE,3OE,FFD2:3YO,3U,3WEO,3WE,3WI,3YU",
     "FFDA:3EU,3YI,3I,FFE0:0FULLWIDTH CENT ak,1POUND ak,1mi ak,1dp,1BROKEN gc,1YEN ak,1WON ak",
     "FFE8:0HALFWIDTH FORMS cn an,1am ae,1bp ae,1ah ae,1ay ae,1ax bn,1bc bo",
     "FFF9:0INTERLINEAR ANNOTATION ANCHOR,2ec,2TERMINATOR,0OBJECT REPLACEMENT ic,0REPLACEMENT ic",
     "10000:0LINEAR B ij B008 A,3B038 E,3B028 I,3B061 O,3B010 U,3B001 DA,3B045 DE,3B007 DI,3B014 DO",
     "3B051 DU,3B057 JA,3B046 JE,1000D:3B036 JO,3B065 JU,3B077 KA,3B044 KE,3B067 KI,3B070 KO",
     "3B081 KU,3B080 MA,3B013 ME,3B073 MI,3B015 MO,3B023 MU,3B006 NA,3B024 NE,3B030 NI,3B052 NO",
     "3B055 NU,3B003 PA,3B072 PE,3B039 PI,3B011 PO,3B050 PU,3B016 QA,3B078 QE,3B021 QI,3B032 QO",
     "10028:3B060 RA,3B027 RE,3B053 RI,3B002 RO,3B026 RU,3B031 SA,3B009 SE,3B041 SI,3B012 SO",
     "3B058 SU,3B059 TA,3B004 TE,3B037 TI,3B005 TO,3B069 TU,3B054 WA,3B075 WE,3B040 WI,3B042 WO",
     "1003C:3B017 ZA,3B074 ZE,1003F:3B020 ZO,3B025 A2,3B043 A3,3B085 AU,3B071 DWE,3B090 DWO",
     "3B048 NWA,3B029 PU2,3B062 PTE,3B076 RA2,3B033 RA3,3B068 RO2,3B066 TA2,3B087 TWE,3B091 cj",
     "10050:2au B018,3B019,3B022,3B034,3B047,3B049,3B056,3B063,3B064,3B079,3B082,3B083,3B086,3B089",
     "10080:2zr B100 MAN,3B102 WOMAN,3B104 DEER,3B105 EQUID,3B105F MARE,3B105M STALLION,3B106F EWE",
     "3B106M RAM,3B107F SHE-GOAT,3B107M HE-GOAT,3B108F SOW,3B108M BOAR,3B109F COW,3B109M BULL",
     "3B120 WHEAT,3B121 BARLEY,3B122 OLIVE,3B123 SPICE,3B125 CYPERUS,2vc B127 KAPO,3B128 KANAKO",
     "2zr B130 OIL,3B131 WINE,3B132,2vc B133 AREPA,3B135 MERI,2zr B140 BRONZE,3B141 GOLD,3B142",
     "3B145 WOOL,3B146,3B150,3B151 ky,3B152,3B153,3B154,2vc B156 TURO2,2zr B157,3B158,3B159 CLOTH",
     "3B160,3B161,3B162 GARMENT,3B163 ARMOUR,3B164,3B165,3B166,3B167,3B168,3B169,3B170,3B171,3B172",
     "3B173 MONTH,3B174,3B176 TREE,3B177,3B178,3B179,3B180,3B181,3B182,3B183,3B184,3B185,3B189",
     "3B190,3B191 HELMET,3B220 FOOTSTOOL,3B225 BATHTUB,3B230 SPEAR,3B231 ae,3B232,3B233 SWORD,3B234",
     "3B236,3B240 WHEELED CHARIOT,3B241 CHARIOT,3B242 CHARIOT FRAME,3B243 WHEEL,3B245,3B246",
     "2vc B247 DIPTE,2zr B248,3B249,3B251,3B252,3B253,3B254 DART,3B255,3B256,3B257,3B258,3B259",
     "3VESSEL B155,4B200,4B201,4B202,4B203,4B204,4B205,4B206,4B207,4B208,4B209,4B210,4B211,4B212",
     "4B213,4B214,4B215,4B216,4B217,4B218,4B219,4B221,4B222,4B226,4B227,4B228,4B229,4B250,4B305",
     "10100:0AEGEAN wa ec fz,3cx,1tz bi,10107:1dr cr,2cj,2aw,2bt,2by,2fu,2bu,2bs,2dj,2jo,2fl,2jg",
     "2ni,2ik,2oi,2fh,2mp,2fy,2cr az,2cj az,2aw az,2bt az,2by az,2fu az,2bu az,2bs az,2dj az,2cr ba"],
    ["2cj ba,2aw ba,2bt ba,2by ba,2fu ba,2bu ba,2bs ba,2dj ba,2jo ba,2fl ba,2jg ba,2ni ba,2ik ba",
     "2oi ba,2fh ba,2mp ba,2fy ba,10137:1WEIGHT BASE UNIT,2zy sx,2yx sx,2rx sx,2FOURTH sx",
     "1DRY xy zy sx,1LIQUID xy zy sx,1xy yx sx,2rx sx,0kn ACROPHONIC ATTIC cr fm,4dd,4DRACHMA,3by",
     "3ik,3by az,4ba,3ik ba,3by uq,3jo uq,3ik uq,3cr az uq,3by az uq,3cr ba uq,3by ba uq,4sz,3jo sz",
     "3ik sz,3cr az sz,3by az sz,3cr ba sz,3jo ba sz,3ik ba sz,3jo MNAS,2HERAEUM cr PLETHRON,2up cr",
     "2HERMIONIAN cr,2EPIDAUREAN cj,2up cj,2CYRENAIC cj DRACHMAS,2EPIDAUREAN cj DRACHMAS",
     "2TROEZENIAN by,3jo,4fr af,2HERMIONIAN jo,2MESSENIAN jo,2up jo,3jg,2TROEZENIAN ik,4fr af",
     "2HERMIONIAN ik,2up ik,3cr az,3aw az,2EPIDAUREAN by az,2TROEZENIAN by az,2up by az",
     "2CARYSTIAN by az,2NAXIAN by az,2up cr ba,3by ba,2DELPHIC by MNAS,2STRATIAN ik MNAS,1cr dd ak",
     "4fr af,1cj ub ak,1aw jh ak,1YEAR ak,1TALENT ak,1DRACHMA ak,1OBOL ak,1cj OBOLS ak,1aw OBOLS ak",
     "1bt OBOLS ak,1by OBOLS ak,1METRETES ak,1KYATHOS BASE ak,1LITRA ak,1OUNKIA ak,1XESTES ak",
     "1ARTABE ak,1AROURA ak,1GRAMMA ak,1TRYBLION BASE ak,1et ak,1cr fm ak,1SINUSOID ak",
     "1INDICTION ak,0NOMISMA ak,10190:0ROMAN SEXTANS ak,1UNCIA ak,1SEMUNCIA ak,1SEXTULA ak",
     "1DIMIDIA SEXTULA ak,1SILIQUA ak,1DENARIUS ak,1QUINARIUS ak,1SESTERTIUS ak,1DUPONDIUS ak",
     "1AS ak,1CENTURIAL ak,0ASCIA au,101A0:0kn au TAU xp,101D0:0PHAISTOS DISC ak PEDESTRIAN",
     "3PLUMED sk,3TATTOOED sk,3CAPTIVE,3CHILD,3WOMAN,3HELMET,3GAUNTLET,3TIARA,3ae,3BOW,3SHIELD",
     "3CLUB,3MANACLES,3MATTOCK,3SAW,3LID,3BOOMERANG,3CARPENTRY PLANE,3DOLIUM,3COMB,3SLING,3COLUMN",
     "3BEEHIVE,3SHIP,3ky,3HIDE,3BULLS LEG,3CAT,3RAM,3EAGLE,3DOVE,3TUNNY,3BEE,3PLANE TREE,3VINE",
     "3PAPYRUS,3ROSETTE,3LILY,3OX BACK,3FLUTE,3GRATER,3STRAINER,3ad AXE,3WAVY BAND,3dk kr at",
     "10280:0LYCIAN aa A,2E,2B,2BH,2G,2D,2I,2W,2Z,2TH,2J,2K,2Q,2L,2M,2N,2MM,2NN,2U,2P,2KK,2R,2S,2T",
     "2TT,2AN,2EN,2H,2X,102A0:0CARIAN aa A,2P2,2D,2L,2UUU,2R,2LD,2A2,2Q,2B,2M,2O,2D2,2T,2SH,2SH2,2S",
     "2C-18,2U,2NN,2X,2N,2TT2,2P,2SS,2I,2E,2UUUU,2K,2K2,2ND,2UU,2G,2G2,2ST,2ST2,2NG,2II,2C-39,2TT",
     "2UUU2,2RR,2MB,2MB2,2MB3,2MB4,2LD2,2E2,2UUU3,102E0:0il EPACT nv bi,2cs cr,3cj,3aw,3bt,3by,3fu",
     "3bu,3bs,3dj,2dr jo,3fl,3jg,3ni,3ik,3oi,3fh,3mp,3fy,3cr az,3cj az,3aw az,3bt az,3by az,3fu az",
     "3bu az,3bs az,3dj az,10300:0nb rc aa A,3BE,3KE,3DE,3E,3VE,3ZE,3HE,3rr,3I,3KA,3EL,3EM,3EN,3ESH",
     "3O,3PE,3tp,3KU,3ER,3ES,3TE,3U,3EKS,3PHE,3KHE,3EF,3ERS,3CHE,3II,3UU,3ESS,2pe cr,3by,3jo,3ik",
     "1032D:2aa YE,3NORTHERN TSE,3SOUTHERN TSE,0GOTHIC aa AHSA,2BAIRKAN,2GIBA,2DAGS,2AIHVUS",
     "2QAIRTHRA,2IUJA,2HAGL,2THIUTH,2EIS,2KUSMA,2LAGUS,2MANNA,2NAUTHS,2JER,2URUS,2PAIRTHRA,2fy",
     "2RAIDA,2SAUIL,2TEIWS,2WINJA,2FAIHU,2IGGWS,2HWAIR,2OTHAL,2dj az,10350:0nb PERMIC aa AN,3BUR",
     "3GAI,3DOI,3E,3ZHOI,3DZHOI,3ZATA,3DZITA,3I,3KOKE,3LEI,3MENOE,3NENOE,3VOOI,3PEEI,3REI,3SII,3TAI",
     "3U,3CHERY,3SHOOI,3SHCHOOI,3YRY,3YERU,3O,3OO,3EF,3HA,3TSIU,3VER,3YER,3YERI,3YAT,3IE,3YU,3YA",
     "3IA,0dk nb PERMIC aa AN,4DOI,4ZATA,4NENOE,4SII,10380:0UGARITIC aa ALPA,2ss,2GAMLA,2lf,2ml,2HO",
     "2WO,2yi,2HOTA,2TET,2YOD,2vv,2mj,2rl,2MEM,2DHAL,2ow,2ZU,2SAMKA,2ul,2PU,2SADE,2QOPA,2RASHA",
     "2THANNA,2on,2TO,2I,2U,2SSU,1039F:1wa yd,0nb PERSIAN ak A,3I,3U,3KA,3KU,3GA,3GU,3XA,3CA,3JA",
     "3JI,3TA,3TU,3DA,3DI,3DU,3lp,3PA,3BA,3FA,3NA,3NU,3MA,3MI,3MU,3YA,3VA,3VI,3RA,3RU,3LA,3SA,3ZA",
     "3kf,3qz,3HA,103C8:3AURAMAZDAA,3AURAMAZDAA-2,3AURAMAZDAAHA,3XSHAAYATHIYA,3DAHYAAUSH",
     "3DAHYAAUSH-2,3BAGA,3BUUMISH,2wa yd,2dr cr,3cj,3jo,3fl,3az,10400:0DESERET ac aa fj I,4E,4A,4AH",
     "4O,4OO,3fs I,4E,4A,4AH,4O,4OO,3AY,3OW,3WU,3YEE,3H,3PEE,3BEE,3TEE,3DEE,3CHEE,3JEE,3KAY,3GAY",
     "3EF,3VEE,3ETH,3THEE,3ES,3ZEE,3ESH,3ZHEE,3ER,3EL,3EM,3EN,3ENG,3OI,3EW,1ad aa fj I,4E,4A,4AH,4O",
     "4OO,3fs I,4E,4A,4AH,4O,4OO,3AY,3OW,3WU,3YEE,3H,3PEE,3BEE,3TEE,3DEE,3CHEE,3JEE,3KAY,3GAY,3EF",
     "3VEE,3ETH,3THEE,3ES,3ZEE,3ESH,3ZHEE,3ER,3EL,3EM,3EN,3ENG,3OI,3EW,0SHAVIAN aa PEEP,2TOT,2KICK",
     "2FEE,2THIGH,2SO,2SURE,2CHURCH,2YEA,2HUNG,2BIB,2DEAD,2GAG,2VOW,2THEY,2ZOO,2xy,2JUDGE,2WOE",
     "2HA-HA,2LOLL,2MIME,2IF,2EGG,2pw,2ADO,2ON,2WOOL,2OUT,2AH,2ROAR,2ow,2EAT,2AGE,2ICE,2UP,2OAK",
     "2OOZE,2OIL,2AWE,2ARE,2OR,2AIR,2ERR,2ARRAY,2EAR,2IAN,2YEW,0OSMANYA aa eb,2BA,2TA,2JA,2XA,2lf",
     "2DEEL,2RA,2SA,2SHIIN,2ov,2CAYN,2GA,2FA,2QAAF,2KAAF,2LAAN,2MIIN,2NUUN,2rq,2HA,2YA,2A,2E,2I,2O",
     "2U,2AA,2EE,2OO,104A0:1cs et,2cr,2cj,2aw,2bt,2by,2fu,2bu,2bs,2dj,104B0:0OSAGE ac aa A,3AI,3ul",
     "3AH,3BRA,3kz,3EHCHA,3E,3EIN,3HA,3HYA,3I,3KA,3EHKA,3KYA,3LA,3MA,3NA,3O,3OIN,3PA,3EHPA,3SA,3kf",
     "3TA,3EHTA,3vu,3EHTSA,3wc,3ov,3U,3WA,3lf,3oo,3ZA,3ZHA,104D8:1ad aa A,3AI,3ul,3AH,3BRA,3kz",
     "3EHCHA,3E,3EIN,3HA,3HYA,3I,3KA,3EHKA,3KYA,3LA,3MA,3NA,3O,3OIN,3PA,3EHPA,3SA,3kf,3TA,3EHTA,3vu",
     "3EHTSA,3wc,3ov,3U,3WA,3lf,3oo,3ZA,3ZHA,10500:0ELBASAN aa A,2BE,2CE,2CHE,2DE,2NDE,2DHE,2EI,2E",
     "2FE,2GE,2GJE,2HE,2I,2JE,2KE,2LE,2LLE,2ME,2NE,2NA,2NJE,2O,2PE,2QE,2RE,2RRE,2SE,2tp,2TE,2rr,2U",
     "2VE,2XE,2Y,2ZE,2ZHE,2GHE,2GHAMMA,2KHE,10530:0CAUCASIAN ALBANIAN aa ALT,3BET,3GIM,3DAT,3EB",
     "3ZARL,3EYN,3ZHIL,3TAS,3kz,3YOWD,3ZHA,3IRB,3kf,3LAN,3INYA,3XEYN,3DYAN,3CAR,3JHOX,3KAR,3LYIT",
     "3HEYT,3QAY,3AOR,3CHOY,3CHI,3CYAY,3MAQ,3QAR,3NOWC,3DZYAY,3SHAK,3JAYN,3ON,3TYAY,3FAM,3DZAY",
     "3CHAT,3PEN,3GHEYS,3RAT,3SEYK,3VEYZ,3TIWR,3SHOY,3IWN,3CYAW,3CAYN,3YAYD,3PIWR,3KIW",
     "1056F:2CITATION bi,0VITHKUQI ac aa A,3BBE,3BE,3CE,3CHE,3DE,3DHE,3EI,3E,3FE,3GA,1057C:3HA,3HHA",
     "3I,3IJE,3JE,3KA,3LA,3xe,3ME,3NE,3NJE,3O,3PE,3QA,3RE,1058C:3SE,3tp,3TE,3rr,3U,3VE,3XE,10594:3Y",
     "3ZE,10597:1ad aa A,3BBE,3BE,3CE,3CHE,3DE,3DHE,3EI,3E,3FE,3GA,105A3:3HA,3HHA,3I,3IJE,3JE,3KA",
     "3LA,3xe,3ME,3NE,3NJE,3O,3PE,3QA,3RE,105B3:3SE,3tp,3TE,3rr,3U,3VE,3XE,105BB:3Y,3ZE",
     "10600:0LINEAR A ak AB001,3AB002,3AB003,3AB004,3AB005,3AB006,3AB007,3AB008,3AB009,3AB010",
     "3AB011,3AB013,3AB016,3AB017,3AB020,3AB021,3AB021F,3AB021M,3AB022,3AB022F,3AB022M,3AB023",
     "3AB023M,3AB024,3AB026,3AB027,3AB028,3A028B,3AB029,3AB030,3AB031,3AB034,3AB037,3AB038,3AB039",
     "3AB040,3AB041,3AB044,3AB045,3AB046,3AB047,3AB048,3AB049,3AB050,3AB051,3AB053,3AB054,3AB055",
     "3AB056,3AB057,3AB058,3AB059,3AB060,3AB061,3AB065,3AB066,3AB067,3AB069,3AB070,3AB073,3AB074"],
    ["3AB076,3AB077,3AB078,3AB079,3AB080,3AB081,3AB082,3AB085,3AB086,3AB087,3A100-102,3AB118,3AB120",
     "3A120B,3AB122,3AB123,3AB131A,3AB131B,3A131C,3AB164,3AB171,3AB180,3AB188,3AB191,3A301,3A302",
     "3A303,3A304,3A305,3A306,3A307,3A308,3A309A,3A309B,3A309C,3A310,3A311,3A312,3A313A,3A313B",
     "3A313C,3A314,3A315,3A316,3A317,3A318,3A319,3A320,3A321,3A322,3A323,3A324,3A325,3A326,3A327",
     "3A328,3A329,3A330,3A331,3A332,3A333,3A334,3A335,3A336,3A337,3A338,3A339,3A340,3A341,3A342",
     "3A343,3A344,3A345,3A346,3A347,3A348,3A349,3A350,3A351,3A352,3A353,3A354,3A355,3A356,3A357",
     "3A358,3A359,3A360,3A361,3A362,3A363,3A364,3A365,3A366,3A367,3A368,3A369,3A370,3A371,3A400-VAS",
     "3A401-VAS,3A402-VAS,3A403-VAS,3A404-VAS,3A405-VAS,3A406-VAS,3A407-VAS,3A408-VAS,3A409-VAS",
     "3A410-VAS,3A411-VAS,3A412-VAS,3A413-VAS,3A414-VAS,3A415-VAS,3A416-VAS,3A417-VAS,3A418-VAS",
     "3A501,3A502,3A503,3A504,3A505,3A506,3A508,3A509,3A510,3A511,3A512,3A513,3A515,3A516,3A520",
     "3A521,3A523,3A524,3A525,3A526,3A527,3A528,3A529,3A530,3A531,3A532,3A534,3A535,3A536,3A537",
     "3A538,3A539,3A540,3A541,3A542,3A545,3A547,3A548,3A549,3A550,3A551,3A552,3A553,3A554,3A555",
     "3A556,3A557,3A559,3A563,3A564,3A565,3A566,3A568,3A569,3A570,3A571,3A572,3A573,3A574,3A575",
     "3A576,3A577,3A578,3A579,3A580,3A581,3A582,3A583,3A584,3A585,3A586,3A587,3A588,3A589,3A591",
     "3A592,3A594,3A595,3A596,3A598,3A600,3A601,3A602,3A603,3A604,3A606,3A608,3A609,3A610,3A611",
     "3A612,3A613,3A614,3A615,3A616,3A617,3A618,3A619,3A620,3A621,3A622,3A623,3A624,3A626,3A627",
     "3A628,3A629,3A634,3A637,3A638,3A640,3A642,3A643,3A644,3A645,3A646,3A648,3A649,3A651,3A652",
     "3A653,3A654,3A655,3A656,3A657,3A658,3A659,3A660,3A661,3A662,3A663,3A664,10740:3A701 A,3A702 B",
     "3A703 D,3A704 E,3A705 F,3A706 H,3A707 J,3A708 K,3A709 L,3A709-2 L2,3A709-3 L3,3A709-4 L4",
     "3A709-6 L6,3A710 W,3A711 X,3A712 Y,3A713 hm,3A714 ABB,3A715 BB,3A717 DD,3A726 EYYY,3A732 JE",
     "10760:3A800,3A801,3A802,3A803,3A804,3A805,3A806,3A807,10780:0ey aa ad ac AA,2hq fc io",
     "3dd fc io,2ad AE,3ac B,3B ab bv,10787:3DZ gr,5ab da bv,6qu,3DEZH gr,3D ab hp,5bv,6bh hp,3bq E",
     "3gn bq fg E,3FENG gr,3RAMS ky,3ac G,3G ab bv,3ac G ab bv,3H ab at,3ac H,3HENG ab bv",
     "3lc J ab at bh bv,3LS gr,3LZ gr,3L ab BELT,3ac L ab BELT,3L ab da bv bh BELT,3LEZH,4ab da bv",
     "3cg Y,5ab BELT,3O ab at,3ac OE,3gn hm,3Q,3cg R ab fj LEG,8bh da bv,3R ab hp,5so,3ac R",
     "3TC gr ab qu,3TS gr,5ab da bv,3TESH gr,3T ab da bv,3V ab ai bv,107B2:3ac Y,2gq gb ab at",
     "2bq gq gb ab at,2BILABIAL vq,2DENTAL vq,2LATERAL vq,2ALVEOLAR vq,2da vq ab da bv,2ad S ab qu",
     "10800:0CYPRIOT ij A,2E,2I,2O,2U,2JA,10808:2JO,1080A:2KA,2KE,2KI,2KO,2KU,2LA,2LE,2LI,2LO,2LU",
     "2MA,2ME,2MI,2MO,2MU,2NA,2NE,2NI,2NO,2NU,2PA,2PE,2PI,2PO,2PU,2RA,2RE,2RI,2RO,2RU,2SA,2SE,2SI",
     "2SO,2SU,2TA,2TE,2TI,2TO,2TU,2WA,2WE,2WI,2WO,10837:2XA,2XE,1083C:2ZA,1083F:2ZO",
     "0IMPERIAL ARAMAIC aa ou,3uk,3pj,3sq,3HE,3rq,3rk,3wn,3TETH,3vz,3vg,3mo,3MEM,3ow,3lq,3AYIN,3PE",
     "3qf,3QOPH,3yz,3mj,3TAW,10857:2hi ak,2dr cr,3cj,3aw,3jo,3fl,3cr az,4ba,3jo ba,0PALMYRENE aa ou",
     "2uk,2pj,2sq,2HE,2rq,2rk,2wn,2TETH,2vz,2vg,2mo,2MEM,2ar ow,2ow,2lq,2AYIN,2PE,2qf,2QOPH,2yz,2mj",
     "2TAW,1ee FLEURON,1dc FLEURON,1dr cr,2cj,2aw,2bt,2by,2jo,2fl,0NABATAEAN aa ar ou,2ou,2ar uk",
     "2uk,2pj,2sq,2ar HE,2HE,2rq,2rk,2wn,2TETH,2ar vz,2vz,2ar vg,2vg,2ar mo,2mo,2ar MEM,2MEM,2ar ow",
     "2ow,2lq,2AYIN,2PE,2qf,2QOPH,2yz,2ar mj,2mj,2TAW,108A7:1dr cr,2cj,2aw,2bt,1CRUCIFORM dr bt",
     "1dr by,2jo,2fl,2cr az,108E0:0HATRAN aa ou,2uk,2pj,2DALETH-RESH,2HE,2rq,2ZAYN,2wn,2TETH,2vz",
     "2vg,2mo,2MEM,2ow,2lq,2AYN,2PE,2qf,2QOPH,108F4:2mj,2TAW,108FB:1dr cr,2by,2jo,2fl,2cr az",
     "0PHOENICIAN aa ALF,2BET,2GAML,2DELT,2HE,2WAU,2ZAI,2HET,2TET,2YOD,2vv,2LAMD,2MEM,2ow,2SEMK,2ul",
     "2PE,2SADE,2QOF,2ROSH,2mj,2TAU,1dr cr,2jo,2fl,2cr az,2cj,2aw,1091F:1wa ec,0LYDIAN aa A,2B,2G",
     "2D,2E,2V,2I,2Y,2K,2L,2M,2N,2O,2R,2SS,2T,2U,2F,2Q,2S,2TT,2AN,2EN,2LY,2NN,2C,1093F:1fc bi",
     "10980:0MEROITIC HIEROGLYPHIC aa A,3E,3I,3O,3YA,3WA,3BA,3BA-2,3PA,3MA,3NA,3NA-2,3NE,3NE-2,3RA",
     "3RA-2,3LA,3lf,3HHA,3SA,3SA-2,3SE,3KA,3QA,3TA,3TA-2,3TE,3TE-2,3TO,3DA,2au VIDJ,3VIDJ-2",
     "1CURSIVE aa A,3E,3I,3O,3YA,3WA,3BA,3PA,3MA,3NA,3NE,3RA,3LA,3lf,3HHA,3SA,3iw SA,3SE,3KA,3QA",
     "3TA,3TE,3TO,3DA,109BC:2ht pt mw,3cr dd,2zj RMT,3IMN,2dr cr,3cj,3aw,3bt,3by,3fu,3bu,3bs,3dj",
     "3jo,3fl,3jg,3ni,3ik,3oi,3fh,109D2:3cr az,3cj az,3aw az,3bt az,3by az,3fu az,3bu az,3bs az",
     "3dj az,3cr ba,3cj ba,3aw ba,3bt ba,3by ba,3fu ba,3bu ba,3bs ba,3dj ba,3jo ba,3fl ba,3jg ba",
     "3ni ba,3ik ba,3oi ba,3fh ba,3mp ba,3fy ba,3cr az ba,3cj az ba,3aw az ba,3bt az ba,3by az ba",
     "3fu az ba,3bu az ba,3bs az ba,3dj az ba,2ht cr TWELFTH,3cj mw,3aw mw,3bt mw,3by mw,3fu mw",
     "3bu mw,3bs mw,3dj mw,3jo mw,0KHAROSHTHI aa A,1cm ak I,3U,3cy R,10A05:3E,3O,10A0C:2mn bi",
     "1ak al ei aq,2cv,2ex,1aa KA,2lf,2GA,2oo,10A15:2CA,2kz,2JA,10A19:2lb,2nu,2jl,2or,2jx,2pp,2TA",
     "2lp,2DA,2ov,2NA,2PA,2mz,2BA,2py,2MA,2YA,2RA,2LA,2VA,2kf,2qz,2SA,2ZA,2HA,2KKA,2TTTHA,2TTTA",
     "2VHA,10A38:1ak gc aj,2CAUDA,2cx aq,10A3F:1fk,1cs cr,2cj,2aw,2bt,1dr jo,2fl,2cr az,3ba",
     "1ht cr dd,10A50:1cc cx,2ad bo,2bo,2vp gc,2MANGALAM,2LOTUS,2jc,2al jc,2LINES",
     "10A60:0nb gu ARABIAN aa HE,4mo,4wn,4MEM,4QOPH,4rq,4mj,4yz,4uk,4TAW,4SAT,4vg,4ow,4KHETH,4qf",
     "4lq,4FE,4eb,4AYN,4DHADHE,4pj,4sq,4GHAYN,4TETH,4ZAYN,4DHALETH,4vz,4THAW,4THETH,3dr cr,4ik",
     "3NUMERIC ny,1gg ARABIAN aa wo,4sf,4iu,4cu,4xx,4rq,4ES-2,4uy,4BEH,4TEH,4ES-1,4vv,4kb,4hw,4SAD",
     "4ES-3,4FEH,4eb,4ul,4DAD,4GEEM,4DAL,4on,4wu,4vx,4THAL,4he,4THEH,4ZAH,3dr cr,4jo,4fl",
     "10AC0:0MANICHAEAN aa ou,2uk,2BHETH,2pj,2GHIMEL,2sq,2HE,2rq,1ak UD,1aa rk,2ZHAYIN,2JAYIN",
     "2JHAYIN,2wn,2TETH,2vz,2vg,2XAPH,2KHAPH,2mo,2DHAMEDH,2THAMEDH,2MEM,2ow,2lq,2AYIN,2AAYIN,2PE",
     "2FE,2qf,2QOPH,2XOPH,2QHOPH,2yz,2mj,2SSHIN,2TAW,1fb bi aj,3aq,10AEB:1dr cr,2by,2jo,2fl,2cr az",
     "1cc hg,2FLEURON,2al cx yj cx,2cx yj cx,2cx,2cj du,2fz uh,10B00:0AVESTAN aa A,2AA,2AO,2AAO,2AN",
     "2AAN,2AE,2AEE,2E,2EE,2O,2OO,2I,2II,2U,2UU,2KE,2XE,2XYE,2XVE,2GE,2GGE,2GHE,2CE,2JE,2TE,2rr,2DE",
     "2DHE,2TTE,2PE,2FE,2BE,2BHE,2NGE,2NGYE,2NGVE,2NE,2NYE,2NNE,2ME,2HME,2YYE,2YE,2VE,2RE,2LE,2SE"],
    ["2ZE,2tp,2ZHE,2SHYE,2SSHE,2HE,10B39:1fb bi,0TINY cj du dv cr cx cc,0ad cj du dv cr cx cc",
     "0ed cj du dv cr cx cc,1cr cx dv cj du cc,1cj RINGS dv cr ei cc,1cr ei dv cj RINGS cc",
     "0INSCRIPTIONAL PARTHIAN aa ou,3uk,3pj,3sq,3HE,3rq,3rk,3wn,3TETH,3vz,3vg,3mo,3MEM,3ow,3lq",
     "3AYIN,3PE,3qf,3QOPH,3yz,3mj,3TAW,10B58:2dr cr,3cj,3aw,3bt,3jo,3fl,3cr az,4ba,1PAHLAVI aa ou",
     "3uk,3pj,3sq,3HE,3WAW-AYIN-RESH,3rk,3wn,3TETH,3vz,3vg,3mo,3MEM-QOPH,3ow,3lq,3PE,3qf,3mj,3TAW",
     "10B78:2dr cr,3cj,3aw,3bt,3jo,3fl,3cr az,4ba,0PSALTER PAHLAVI aa ou,3uk,3pj,3sq,3HE",
     "3WAW-AYIN-RESH,3rk,3wn,3vz,3vg,3mo,3MEM-QOPH,3ow,3lq,3PE,3qf,3mj,3TAW,10B99:2hi bi,2cg hi bi",
     "2bt du ab gs,5cx,10BA9:2dr cr,3cj,3aw,3bt,3jo,3fl,3cr az,10C00:0nb TURKIC aa hk A,3go A,4AE",
     "3hk I,3go I,4E,3hk O,4OE,3go OE,3hk AB,3go AB,3hk AEB,3go AEB,3hk AG,3go AG,3hk AEG,3go AEG",
     "3hk AD,3go AD,3hk AED,4EZ,3go EZ,3hk AY,3go AY,3hk AEY,3go AEY,3hk AEK,3go AEK,3hk OEK",
     "3go OEK,3hk AL,3go AL,3hk AEL,4ELT,4EM,4AN,4AEN,3go AEN,3hk ENT,3go ENT,3hk ENC,3go ENC",
     "3hk ENY,3go ENY,4ANG,3hk ENG,3go AENG,3hk EP,4OP,4IC,4EC,3go EC,3hk AQ,3go AQ,3hk IQ,3go IQ",
     "3hk OQ,3go OQ,3hk AR,3go AR,3hk AER,4AS,4AES,4pw,3go pw,3hk ESH,3go ESH,3hk AT,3go AT,3hk AET",
     "3go AET,3hk OT,4BASH,10C80:1HUNGARIAN ac aa A,4AA,4EB,4AMB,4EC,4ENC,4ECS,4ED,4bh,4E,4CLOSE E",
     "4EE,4EF,4EG,4EGY,4EH,4I,4II,4EJ,4EK,4AK,4UNK,4EL,4ELY,4EM,4EN,4ENY,4O,4OO,4zg OE",
     "4RUDIMENTA OE,4OEE,4EP,4EMP,4ER,4fs ER,4ES,4ESZ,4ET,4ENT,4ETY,4ECH,4U,4UU,4zg UE",
     "4RUDIMENTA UE,4EV,4EZ,4EZS,4ENT-SHAPED ak,4US,10CC0:2ad aa A,4AA,4EB,4AMB,4EC,4ENC,4ECS,4ED",
     "4bh,4E,4CLOSE E,4EE,4EF,4EG,4EGY,4EH,4I,4II,4EJ,4EK,4AK,4UNK,4EL,4ELY,4EM,4EN,4ENY,4O,4OO",
     "4zg OE,4RUDIMENTA OE,4OEE,4EP,4EMP,4ER,4fs ER,4ES,4ESZ,4ET,4ENT,4ETY,4ECH,4U,4UU,4zg UE",
     "4RUDIMENTA UE,4EV,4EZ,4EZS,4ENT-SHAPED ak,4US,10CFA:2dr cr,3by,3jo,3ik,3cr az,4ba",
     "0HANIFI ROHINGYA aa A,3BA,3PA,3TA,3nu,3JA,3CA,3HA,3lf,3FA,3DA,3or,3RA,3RRA,3ZA,3SA,3kf,3KA",
     "3GA,3LA,3MA,3NA,3WA,3KINNA WA,3YA,3KINNA YA,3ke,3lb,3VA,2cm A,3I,3U,3E,3O,2bi SAKIN",
     "3NA KHONNA,2ak HARBAHAY,3TAHALA,3TANA,3TASSI,10D30:2cs et,3cr,3cj,3aw,3bt,3by,3fu,3bu,3bs,3dj",
     "10E60:0RUMI cs cr,2cj,2aw,2bt,2by,2fu,2bu,2bs,2dj,1dr jo,2fl,2jg,2ni,2ik,2oi,2fh,2mp,2fy",
     "2cr az,2cj az,2aw az,2bt az,2by az,2fu az,2bu az,2bs az,2dj az,1ht cr dd,3fm,3rx,2cj ub",
     "10E80:0YEZIDI aa ELIF,2BE,2PE,2PHE,2rr,2SE,2CIM,2CHIM,2CHHIM,2HHA,2XA,2DAL,2ZAL,2RA,2RHA,2ZA",
     "2JA,2SIN,2mj,2SAD,2DAD,2TA,2ZE,2EYN,2XHEYN,2FA,2VA,3fr af,2xx,2vv,2KHAF,2GAF,2sf,2MIM,2ow,2UM",
     "2rq,2OW,2EW,2HAY,2YOT,2ET,10EAB:1dk ib bi,2zi bi,1HYPHENATION bi,10EB0:1aa sf ab cx aj",
     "2YOT ab be aj,10F00:0nb SOGDIAN aa ou,3ar ou,3uk,3ar uk,3pj,3HE,3ar HE,3rq,3rk,3wn,3vz,3vg",
     "3mo,3MEM,3ow,3ar ow,5ab an hp,3lq,3AYIN,3fr AYIN,3PE,3qf,3ar qf,5ab an hp,3RESH-AYIN-DALETH",
     "3mj,3TAW,3ar TAW,5ab an hp,2dr cr,3cj,3aw,3bt,3by,3jo,3fl,3jg,3cr az,2ht cr dd",
     "2el AYIN-DALETH,10F30:0SOGDIAN aa ou,2uk,2pj,2HE,2rq,2rk,2wn,2vz,2vg,2mo,2MEM,2ow,2lq,2AYIN",
     "2PE,2qf,2RESH-AYIN,2mj,2TAW,2FETH,2LESH,1ln mj,1dk cx aq,2cj du aq,2cx aj,2cj du aj,2nj aj",
     "3aq,2bv aj,3aq,2fj bv aq,2yz aq,2at aq,1dr cr,2jo,2fl,2cr az,1cc cj an BARS,5ab du,2bo ab cx",
     "2cj mf ab du,2dd bo ab cx,10F70:0nb UYGHUR aa ou,3uk,3GIMEL-HETH,3rq,3rk,3ar wn,3vz,3vg,3mo",
     "3MEM,3ow,3lq,3PE,3qf,3yz,3mj,3TAW,3LESH,2dk cx aj,4aq,3cj du aj,5aq,2cc gc,3cj BARS,4du",
     "3bt du,10FB0:0CHORASMIAN aa ou,2ad ou,2uk,2pj,2sq,2HE,2rq,2CURLED rq,2rk,2wn,2vz,2vg,2mo,2MEM",
     "2ow,2lq,2AYIN,2PE,2yz,2mj,2TAW,1dr cr,2cj,2aw,2bt,2jo,2fl,2cr az,10FE0:0ELYMAIC aa ou,2uk,2pj",
     "2sq,2HE,2rq,2rk,2wn,2TETH,2vz,2vg,2mo,2MEM,2ow,2lq,2AYIN,2PE,2qf,2QOPH,2yz,2mj,2TAW",
     "1el ZAYIN-YODH,11000:0BRAHMI ak dh,2cv,2ex,2pg,2ox,1aa A,2AA,2I,2II,2U,2UU,2cy R,3RR,3L,3LL",
     "2E,2AI,2O,2AU,2KA,2lf,2GA,2oo,2ke,2CA,2kz,2JA,2tf,2lb,2nu,2jl,2or,2jx,2pp,2TA,2lp,2DA,2ov,2NA",
     "2PA,2mz,2BA,2py,2MA,2YA,2RA,2LA,2VA,2kf,2qz,2SA,2HA,2xe,2nb TAMIL LLLA,4RRA,4NNNA,1cm ak AA",
     "3BHATTIPROLU AA,3I,3II,3U,3UU,3cy R,4RR,4L,4LL,3E,3AI,3O,3AU,1fk,1jc,1al jc,1cc cx,2al cx,2fz",
     "2vp gc,2LOTUS,11052:1dr cr,2cj,2aw,2bt,2by,2fu,2bu,2bs,2dj,2jo,2fl,2jg,2ni,2ik,2oi,2fh,2mp",
     "2fy,2cr az,3ba,1cs et,2cr,2cj,2aw,2bt,2by,2fu,2bu,2bs,2dj,1ak nb TAMIL fk,1aa nb TAMIL fs E",
     "5O,1cm ak nb TAMIL fs E,6O,1aa nb TAMIL xe,1107F:1dr zo,0KAITHI ak dh,2cv,2ex,1aa A,2AA,2I",
     "2II,2U,2UU,2E,2AI,2O,2AU,2KA,2lf,2GA,2oo,2ke,2CA,2kz,2JA,2tf,2lb,2nu,2jl,2or,2DDDHA,2jx,2RHA",
     "2pp,2TA,2lp,2DA,2ov,2NA,2PA,2mz,2BA,2py,2MA,2YA,2RA,2LA,2VA,2kf,2qz,2SA,2HA,1cm ak AA,3I,3II",
     "3U,3UU,3E,3AI,3O,3AU,1ak fk,2kk,1fb ak,1ENUMERATION ak,1dr ak,1hi bi,1al hi bi,1jc,1al jc",
     "1cm ak cy R,110CD:1dr ak aj,110D0:0SORA SOMPENG aa SAH,3wu,3BAH,3CAH,3DAH,3GAH,3MAH,3NGAH",
     "3LAH,3NAH,3VAH,3PAH,3YAH,3RAH,3iu,3KAH,3JAH,3NYAH,3AH,3EEH,3IH,3UH,3OH,3EH,3MAE,110F0:2cs et",
     "3cr,3cj,3aw,3bt,3by,3fu,3bu,3bs,3dj,11100:0CHAKMA ak dh,2cv,2ex,1aa AA,2I,2U,2E,2KAA,2KHAA",
     "2GAA,2GHAA,2NGAA,2CAA,2CHAA,2JAA,2JHAA,2NYAA,2TTAA,2TTHAA,2DDAA,2DDHAA,2NNAA,2TAA,2THAA,2DAA",
     "2DHAA,2NAA,2PAA,2PHAA,2BAA,2BHAA,2MAA,2YYAA,2YAA,2RAA,2LAA,2WAA,2SAA,2HAA,1cm ak A,3I,3II,3U",
     "3UU,3E,3AI,3O,3AU,3OI,1O bi,1AU bi,1fk,1MAAYYAA,11136:1cs et,2cr,2cj,2aw,2bt,2by,2fu,2bu,2bs",
     "2dj,1hi bi,1jc,1al jc,1fd bi,1aa LHAA,1cm ak AA,3EI,1aa VAA,11150:0MAHAJANI aa A,2I,2U,2E,2O",
     "2KA,2lf,2GA,2oo,2CA,2kz,2JA,2tf,2lb,2nu,2jl,2or,2jx,2pp,2TA,2lp,2DA,2ov,2NA,2PA,2mz,2BA,2py",
     "2MA,2RA,2LA,2VA,2SA,2HA,2RRA,1ak kk,1fb ak,1hi bi,1el SHRI,11180:0SHARADA ak dh,2cv,2ex,1aa A",
     "2AA,2I,2II,2U,2UU,2cy R,3RR,3L,3LL,2E,2AI,2O,2AU,2KA,2lf,2GA,2oo,2ke,2CA,2kz,2JA,2tf,2lb,2nu",
     "2jl,2or,2jx,2pp,2TA,2lp,2DA,2ov,2NA,2PA,2mz,2BA,2py,2MA,2YA,2RA,2LA,2xe,2VA,2kf,2qz,2SA,2HA",
     "1cm ak AA,3I,3II,3U,3UU,3cy R,4RR,4L,4LL,3E,3AI,3O,3AU,1ak fk,2iv,2pg,2ox,1OM,1jc,1al jc",
     "1fb ak,1ec,1SANDHI bi,1ak kk,1cm ey bi,1EXTRA fs cm bi,1SUTRA bi,1cm ak PRISHTHAMATRA E",
     "1ak cb dh,1cs et,2cr,2cj,2aw,2bt,2by,2fu,2bu,2bs,2dj,1EKAM,1ak ut,1HEADSTROKE",
     "1CONTINUATION ak,1hi MARK-1,2MARK-2,111E1:0SINHALA iw cs cr,3cj,3aw,3bt,3by,3fu,3bu,3bs,3dj"],
    ["2dr jo,3fl,3jg,3ni,3ik,3oi,3fh,3mp,3fy,3cr az,4ba,11200:0KHOJKI aa A,2AA,2I,2U,2E,2AI,2O,2AU",
     "2KA,2lf,2GA,2GGA,2oo,2ke,2CA,2kz,2JA,2JJA,11213:2lb,2nu,2jl,2or,2jx,2pp,2TA,2lp,2DA,2DDDA,2ov",
     "2NA,2PA,2mz,2BA,2BBA,2py,2MA,2YA,2RA,2LA,2VA,2SA,2HA,2xe,1cm ak AA,3I,3II,3U,3E,3AI,3O,3AU",
     "1ak cv,2fk,2kk,2SHADDA,1jc,1al jc,1wa ec,1hi bi,1al hi bi,1fb ak,1ak SUKUN",
     "11280:0MULTANI aa A,2I,2U,2E,2KA,2lf,2GA,11288:2oo,1128A:2CA,2kz,2JA,2JJA,1128F:2lb,2nu,2jl",
     "2or,2DDDA,2jx,2pp,2TA,2lp,2DA,2ov,2NA,2PA,2mz,2BA,1129F:2py,2MA,2YA,2RA,2LA,2VA,2SA,2HA,2RRA",
     "2RHA,1hi bi,112B0:0KHUDAWADI aa A,2AA,2I,2II,2U,2UU,2E,2AI,2O,2AU,2KA,2lf,2GA,2GGA,2oo,2ke",
     "2CA,2kz,2JA,2JJA,2tf,2lb,2nu,2jl,2or,2DDDA,2RRA,2jx,2pp,2TA,2lp,2DA,2ov,2NA,2PA,2mz,2BA,2BBA",
     "2py,2MA,2YA,2RA,2LA,2VA,2kf,2SA,2HA,1ak cv,1cm ak AA,3I,3II,3U,3UU,3E,3AI,3O,3AU,1ak kk,2fk",
     "112F0:1cs et,2cr,2cj,2aw,2bt,2by,2fu,2bu,2bs,2dj,11300:0GRANTHA ak dk cv aj,2dh,2cv,2ex",
     "11305:1aa A,2AA,2I,2II,2U,2UU,2cy R,3L,1130F:2EE,2AI,11313:2OO,2AU,2KA,2lf,2GA,2oo,2ke,2CA",
     "2kz,2JA,2tf,2lb,2nu,2jl,2or,2jx,2pp,2TA,2lp,2DA,2ov,2NA,1132A:2PA,2mz,2BA,2py,2MA,2YA,2RA",
     "11332:2LA,2xe,11335:2VA,2kf,2qz,2SA,2HA,1133B:0dk BINDU aq,0GRANTHA ak kk,2iv,1cm ak AA,3I",
     "3II,3U,3UU,3cy R,4RR,11347:3EE,3AI,1134B:3OO,3AU,1ak fk,11350:1OM,11357:1AU mn bi",
     "1135D:1ak PLUTA,1aa VEDIC cv,3al cv,2cy RR,3LL,1cm ak cy L,4LL,11366:0dk GRANTHA cs et,3cr",
     "3cj,3aw,3bt,3by,3fu,11370:2aa A,3KA,3NA,3VI,3PA,11400:0NEWA aa A,2AA,2I,2II,2U,2UU,2cy R,3RR",
     "3L,3LL,2E,2AI,2O,2AU,2KA,2lf,2GA,2oo,2ke,2NGHA,2CA,2kz,2JA,2tf,2lb,2NYHA,2nu,2jl,2or,2jx,2pp",
     "2TA,2lp,2DA,2ov,2NA,2NHA,2PA,2mz,2BA,2py,2MA,2MHA,2YA,2RA,2RHA,2LA,2LHA,2WA,2kf,2qz,2SA,2HA",
     "1cm ak AA,3I,3II,3U,3UU,3cy R,4RR,4L,4LL,3E,3AI,3O,3AU,1ak fk,2dh,2cv,2ex,2kk,2iv,2ar cv,1OM",
     "1SIDDHI,1jc,1al jc,1es,1GAP uh,1fb ak,1cs et,2cr,2cj,2aw,2bt,2by,2fu,2bu,2bs,2dj,1al es",
     "1PLACEHOLDER bi,1145D:1INSERTION ak,1SANDHI bi,1aa VEDIC cv,1ak pg,2ox,11480:0TIRHUTA ANJI",
     "1aa A,2AA,2I,2II,2U,2UU,2cy R,3RR,3L,3LL,2E,2AI,2O,2AU,2KA,2lf,2GA,2oo,2ke,2CA,2kz,2JA,2tf",
     "2lb,2nu,2jl,2or,2jx,2pp,2TA,2lp,2DA,2ov,2NA,2PA,2mz,2BA,2py,2MA,2YA,2RA,2LA,2VA,2kf,2qz,2SA",
     "2HA,1cm ak AA,3I,3II,3U,3UU,3cy R,4RR,4L,4LL,3E,3fs E,3AI,3O,3fs O,3AU,1ak dh,2cv,2ex,2fk,2kk",
     "2iv,1GVANG,1fb ak,1OM,114D0:1cs et,2cr,2cj,2aw,2bt,2by,2fu,2bu,2bs,2dj,11580:0ut aa A,2AA,2I",
     "2II,2U,2UU,2cy R,3RR,3L,3LL,2E,2AI,2O,2AU,2KA,2lf,2GA,2oo,2ke,2CA,2kz,2JA,2tf,2lb,2nu,2jl,2or",
     "2jx,2pp,2TA,2lp,2DA,2ov,2NA,2PA,2mz,2BA,2py,2MA,2YA,2RA,2LA,2VA,2kf,2qz,2SA,2HA,1cm ak AA,3I",
     "3II,3U,3UU,3cy R,4RR,115B8:3E,3AI,3O,3AU,1ak dh,2cv,2ex,2fk,2kk,2ut,1jc,1al jc,1ec cx,2gc",
     "1REPETITION MARK-1,2MARK-2,2MARK-3,1sp OF TEXT bi,1hi bi ab TRIDENT bh ym ORNAMENTS,6ga ob",
     "4RAYS bh ga ob,7al ob,7eq ob,3al ei,5ab RAYS,3ab al ob,4eq ob,4kq ob,4SEPTUPLE ob,4mf bh RAYS",
     "6cj ENCLOSURES,6bt ENCLOSURES,1aa THREE-CIRCLE fr I,2TWO-CIRCLE fr I,4II,2fr U,1cm ak fr U",
     "4UU,11600:0MODI aa A,2AA,2I,2II,2U,2UU,2cy R,3RR,3L,3LL,2E,2AI,2O,2AU,2KA,2lf,2GA,2oo,2ke,2CA",
     "2kz,2JA,2tf,2lb,2nu,2jl,2or,2jx,2pp,2TA,2lp,2DA,2ov,2NA,2PA,2mz,2BA,2py,2MA,2YA,2RA,2LA,2VA",
     "2kf,2qz,2SA,2HA,2xe,1cm ak AA,3I,3II,3U,3UU,3cy R,4RR,4L,4LL,3E,3AI,3O,3AU,1ak cv,2ex,2fk",
     "2ARDHACANDRA,1jc,1al jc,1fb ak,1ak HUVA,11650:1cs et,2cr,2cj,2aw,2bt,2by,2fu,2bu,2bs,2dj",
     "11660:0MONGOLIAN xl ab co,1cp xl,1al xl ab co,1eq xl ab co,1xl ab al co,1cp xl ab co,4al co",
     "1cb xl,3ab al co,1SWIRL xl,3ab co,4al co,1cg SWIRL xl ab al co,11680:0TAKRI aa A,2AA,2I,2II",
     "2U,2UU,2E,2AI,2O,2AU,2KA,2lf,2GA,2oo,2ke,2CA,2kz,2JA,2tf,2lb,2nu,2jl,2or,2jx,2pp,2TA,2lp,2DA",
     "2ov,2NA,2PA,2mz,2BA,2py,2MA,2YA,2RA,2LA,2VA,2kf,2SA,2HA,2RRA,1ak cv,2ex,1cm ak AA,3I,3II,3U",
     "3UU,3E,3AI,3O,3AU,1ak fk,2kk,1aa iw lf,1fb ak,116C0:1cs et,2cr,2cj,2aw,2bt,2by,2fu,2bu,2bs",
     "2dj,11700:0AHOM aa KA,2lf,2ke,2NA,2TA,2fr TA,2PA,2mz,2BA,2MA,2JA,2kz,2lp,2RA,2LA,2SA,2lb,2HA",
     "2A,2DA,2ov,2GA,2fr GA,2oo,2py,2tf,2fr BA,1171D:1fq ak cf LA,4RA,4LIGATING RA,1cm ak A,3AA,3I",
     "3II,3U,3UU,3E,3AW,3O,3AI,3AM,1ak KILLER,11730:1cs et,2cr,2cj,2aw,2bt,2by,2fu,2bu,2bs,2dj",
     "1dr jo,2fl,1ak ad hi,2hi,2RULAI,1au VI,1aa CA,2nu,2jl,2or,2jx,2pp,2xe,11800:0DOGRA aa A,2AA",
     "2I,2II,2U,2UU,2E,2AI,2O,2AU,2KA,2lf,2GA,2oo,2ke,2CA,2kz,2JA,2tf,2lb,2nu,2jl,2or,2jx,2pp,2TA",
     "2lp,2DA,2ov,2NA,2PA,2mz,2BA,2py,2MA,2YA,2RA,2LA,2VA,2kf,2qz,2SA,2HA,2RRA,1cm ak AA,3I,3II,3U",
     "3UU,3cy R,4RR,3E,3AI,3O,3AU,1ak cv,2ex,2fk,2kk,1fb ak,118A0:0WARANG CITI ac aa NGAA,4A,4WI",
     "4YU,4YA,4YO,4II,4UU,4E,4O,4ANG,4GA,4KO,4ENY,4YUJ,4UC,4ENN,4ODD,4TTE,4NUNG,4DA,4AT,4AM,4BU,4PU",
     "4HIYO,4HOLO,4HORR,4HAR,4SSUU,4SII,4VIYO,2ad aa NGAA,4A,4WI,4YU,4YA,4YO,4II,4UU,4E,4O,4ANG,4GA",
     "4KO,4ENY,4YUJ,4UC,4ENN,4ODD,4TTE,4NUNG,4DA,4AT,4AM,4BU,4PU,4HIYO,4HOLO,4HORR,4HAR,4SSUU,4SII",
     "4VIYO,2cs et,3cr,3cj,3aw,3bt,3by,3fu,3bu,3bs,3dj,2dr jo,3fl,3jg,3ni,3ik,3oi,3fh,3mp,3fy",
     "118FF:2OM,0DIVES AKURU aa A,3AA,3I,3II,3U,3UU,3E,11909:3O,1190C:3KA,3lf,3GA,3oo,3ke,3CA,3kz",
     "3JA,11915:3lb,3nu,11918:3or,3jx,3pp,3TA,3lp,3DA,3ov,3NA,3PA,3mz,3BA,3py,3MA,3YA,3YYA,3RA,3LA",
     "3VA,3kf,3qz,3SA,3HA,3xe,3ZA,2cm ak AA,4I,4II,4U,4UU,4E,11937:4AI,4O,1193B:2ak cv,3dh,3HALANTA",
     "2fk,2PREFIXED NASAL ak,2cf YA,2ap RA,2cf RA,2ak kk,2al jc,2GAP uh,2sp OF TEXT bi,11950:2cs et",
     "3cr,3cj,3aw,3bt,3by,3fu,3bu,3bs,3dj,119A0:0NANDINAGARI aa A,2AA,2I,2II,2U,2UU,2cy R,3RR",
     "119AA:2E,2AI,2O,2AU,2KA,2lf,2GA,2oo,2ke,2CA,2kz,2JA,2tf,2lb,2nu,2jl,2or,2jx,2pp,2TA,2lp,2DA",
     "2ov,2NA,2PA,2mz,2BA,2py,2MA,2YA,2RA,2LA,2VA,2kf,2qz,2SA,2HA,2xe,2RRA,1cm ak AA,3I,3II,3U,3UU",
     "3cy R,4RR,119DA:3E,3AI,3O,3AU,1ak cv,2ex,2fk,2iv,2ut,1HEADSTROKE,1cm ak PRISHTHAMATRA E",
     "11A00:0ZANABAZAR bn aa A,2cm ak I,4UE,4U,4E,4OE,4O,4AI,4AU,4bq I,3mn bi,2aa KA,3lf,3GA,3oo",
     "3ke,3CA,3kz,3JA,3lb,3nu,3jl,3or,3jx,3pp,3TA,3lp,3DA,3ov,3NA,3PA,3mz,3BA,3py,3MA,3vu,3wc,3DZA",
     "3DZHA,3ZHA,3ZA,3-A,3YA,3RA,3LA,3VA,3kf,3qz,3SA,3HA,3KSSA,2ar fq bi,2ak fk,3dh,4ab co",
     "3mr ab co,3cv,3ex,2CLUSTER-INITIAL aa RA,2CLUSTER-FINAL aa YA,4RA,4LA,4VA,2ap sk bi",
     "2CLOSING sk bi,2bi un,3uu,3al uu,3fj un,2ap DOUBLE-LINED sk bi,2CLOSING DOUBLE-LINED sk bi"],
    ["2SUBJOINER,11A50:0SOYOMBO aa A,1cm ak I,3UE,3U,3E,3O,3OE,3AI,3AU,3cy R,4L,2mn bi,1aa KA,2lf",
     "2GA,2oo,2ke,2CA,2kz,2JA,2tf,2lb,2nu,2jl,2or,2jx,2pp,2TA,2lp,2DA,2ov,2NA,2PA,2mz,2BA,2py,2MA",
     "2vu,2wc,2DZA,2ZHA,2ZA,2-A,2YA,2RA,2LA,2VA,2kf,2qz,2SA,2HA,2KSSA,1ak pg,2ox",
     "1CLUSTER-INITIAL aa RA,3LA,3kf,3SA,1ar fq ak G,4K,4NG,4D,4N,4B,4M,4R,4L,4SH,4S,4-A,1ak cv,2ex",
     "1ug bi,1SUBJOINER,1bi un,2uu,2al uu,2PLUTA,1sk bi ab nn bh SUN bh eq FLAME,8FLAME,6SUN",
     "1TERMINAL MARK-1,2MARK-2,11AB0:0CANADIAN SYLLABICS NATTILIK HI,3HII,3HO,3HOO,3HA,3HAA,3SHRI",
     "3SHRII,3SHRO,3SHROO,3SHRA,3SHRAA,2SPE,2SPI,2SPO,2SPA,0PAU CIN HAU aa PA,4KA,4LA,4MA,4DA,4ZA",
     "4VA,4ke,4HA,4GA,4lf,4SA,4BA,4CA,4TA,4lp,4NA,4mz,4RA,4FA,4kz,4A,4E,4I,4O,4U,4UA,4IA,4ar P,5K",
     "5T,5M,5N,5L,5W,5NG,5Y,3ok ff fj,4ff,3SANDHI gq gb,3ok ff fj ar,5ar,3SANDHI gq gb ar,4ff fj",
     "4ff,5fj ar,5ar,3MID-LEVEL ff,3gq gb hx,3MID-LEVEL ff fj ar,5ar,3LOW-FALLING ff fj,4ff,3gq gb",
     "3LOW-FALLING ff fj ar,5ar,3gq gb ar,11C00:0BHAIKSUKI aa A,2AA,2I,2II,2U,2UU,2cy R,3RR,3L",
     "11C0A:2E,2AI,2O,2AU,2KA,2lf,2GA,2oo,2ke,2CA,2kz,2JA,2tf,2lb,2nu,2jl,2or,2jx,2pp,2TA,2lp,2DA",
     "2ov,2NA,2PA,2mz,2BA,2py,2MA,2YA,2RA,2LA,2VA,2kf,2qz,2SA,2HA,1cm ak AA,3I,3II,3U,3UU,3cy R,4RR",
     "4L,11C38:3E,3AI,3O,3AU,1ak dh,2cv,2ex,2fk,2iv,1jc,1al jc,1wa ec,1GAP FILLER-1,2FILLER-2",
     "11C50:1cs et,2cr,2cj,2aw,2bt,2by,2fu,2bu,2bs,2dj,1dr cr,2cj,2aw,2bt,2by,2fu,2bu,2bs,2dj,2jo",
     "2fl,2jg,2ni,2ik,2oi,2fh,2mp,2fy,1HUNDREDS UNIT bi,11C70:0MARCHEN sk bi,1bi uu,1aa KA,2lf,2GA",
     "2ke,2CA,2kz,2JA,2lb,2TA,2lp,2DA,2NA,2PA,2mz,2BA,2MA,2vu,2wc,2DZA,2WA,2ZHA,2ZA,2-A,2YA,2RA,2LA",
     "2kf,2SA,2HA,2A,11C92:1sy aa KA,3lf,3GA,3ke,3CA,3kz,3JA,3lb,3TA,3lp,3DA,3NA,3PA,3mz,3BA,3MA",
     "3vu,3wc,3DZA,3WA,3ZHA,3ZA,11CA9:3YA,3RA,3LA,3kf,3SA,3HA,3A,1cm ak AA,3I,3U,3E,3O,1ak cv,2dh",
     "11D00:0MASARAM GONDI aa A,3AA,3I,3II,3U,3UU,3E,11D08:3AI,3O,11D0B:3AU,3KA,3lf,3GA,3oo,3ke,3CA",
     "3kz,3JA,3tf,3lb,3nu,3jl,3or,3jx,3pp,3TA,3lp,3DA,3ov,3NA,3PA,3mz,3BA,3py,3MA,3YA,3RA,3LA,3VA",
     "3kf,3qz,3SA,3HA,3xe,3KSSA,3JNYA,3TRA,2cm ak AA,4I,4II,4U,4UU,4cy R,11D3A:4E,11D3C:4AI,4O",
     "11D3F:4AU,2ak cv,3ex,3kk,3mr,3HALANTA,2fk,2REPHA,2RA-KARA,11D50:2cs et,3cr,3cj,3aw,3bt,3by",
     "3fu,3bu,3bs,3dj,11D60:0GUNJALA GONDI aa A,3AA,3I,3II,3U,3UU,11D67:3EE,3AI,11D6A:3OO,3AU,3YA",
     "3VA,3BA,3py,3MA,3KA,3lf,3TA,3lp,3LA,3GA,3oo,3DA,3ov,3NA,3CA,3kz,3nu,3jl,3xe,3JA,3tf,3or,3jx",
     "3ke,3PA,3mz,3HA,3RA,3SA,2cm ak AA,4I,4II,4U,4UU,11D90:4EE,4AI,11D93:4OO,4AU,2ak cv,3ex,2fk",
     "2OM,11DA0:2cs et,3cr,3cj,3aw,3bt,3by,3fu,3bu,3bs,3dj,11EE0:0MAKASAR aa KA,2GA,2ke,2PA,2BA,2MA",
     "2TA,2DA,2NA,2CA,2JA,2lb,2YA,2RA,2LA,2VA,2SA,2A,1ANGKA,1cm ak I,3U,3E,3O,1PASSIMBANG,1sp OF hi",
     "11FB0:0LISU aa YHA,11FC0:0TAMIL ht cr THREE-HUNDRED-AND-TWENTIETH,3ONE-HUNDRED-AND-SIXTIETH",
     "3EIGHTIETH,3SIXTY-FOURTH,3FORTIETH,3THIRTY-SECOND,2aw EIGHTIETHS,3SIXTY-FOURTHS,2cr TWENTIETH",
     "3SIXTEENTH-1,3SIXTEENTH-2,3TENTH,3ie,2aw TWENTIETHS,3yt,2cr FIFTH,3fm,3HALF-1,3HALF-2,2aw jh",
     "2DOWNSCALING FACTOR KIIZH,1ak NEL,2CEVITU,2AAZHAAKKU,2UZHAKKU,2MUUVUZHAKKU,2KURUNI,2PATHAKKU",
     "2MUKKURUNI,2KAACU,2PANAM,2PON,2VARAAKAN,2PAARAM,2KUZHI,2VELI,1WET CULTIVATION ak",
     "1DRY CULTIVATION ak,1LAND ak,1SALT PAN ak,1TRADITIONAL CREDIT ak,2dr ak,1CURRENT ak",
     "1bh ODD ak,1SPENT ak,1TOTAL ak,1IN POSSESSION ak,1STARTING md ak,1ak MUTHALIYA,2VAKAIYARAA",
     "11FFF:1cc sp OF TEXT,0CUNEIFORM ak A,3br A,4BAD,4tn jm,4HA,4yb,4LAGAR id,4MUSH,4SAG,2A2,2AB",
     "3br ASH2,4DUN3 id,4GAL,4tn jm,4HA,4yb id,4IMIN,4tv,4SHESH,4U cz U cz U,3id,2AB2,3br BALAG",
     "4tn jm,4ME cz EN,4SHA3,4ur,2AD,2AK,3br ERIN2,4SHITA cz vl,2AL,3br AL,4DIM2,4vl,4HA,4KAD3,4KI",
     "4tp,4USH,2ALAN,2ou,2AMAR,3br tp,2AN,3dv AN,3aw br,3cz NAGA qj AN cz NAGA,5ez,2ANSHE,2APIN",
     "2ARAD,3br KUR,2ARKAB,2ASAL2,2pw,3ZIDA jm,3KABA jm,3dv pw TUG2 dv TUG2 TUG2 dv TUG2 PAP,5dv pw",
     "7er pw dv pw dv pw,2ASH2,2ASHGAB,2BA,2BAD,2BAG3,2BAHAR2,2BAL,3dv BAL,2BALAG,2gc,2BARA2,2BI",
     "3br A,4xt,4yb id,2BU,3dv BU AB,5UN,3er BU,2BULUG,3dv BULUG,2BUR,2BUR2,2DA,2DAG",
     "3KISIM5 br A cz MASH,5AMAR,5BALAG,5BI,5GA,6cz MASH,5GI,5GIR2,5GUD,5HA,5IR,6cz LU,5KAK,5LA,5LU",
     "6cz MASH2,5LUM,5NE,5PAP cz PAP,5SI,5ur,5U2 cz GIR2,5USH,2DAM,2DAR,2DARA3,2DARA4,2DI,2DIB,2DIM",
     "3br tp,2DIM2,2DIN,3pr U id pu,2pu,2DU,3dv DU,3id,3tb,2DUB,3br ESH2,2DUB2,2DUG,2DUGUD,2DUH",
     "2DUN,2DUN3,3id,4id,2DUN4,2DUR2,2E,3br PAP,3dv E ow dv ow,2E2,3br A cz HA cz DA,4xt,4MI,4SAL",
     "4tp,4U,2EDIN,2EGIR,2EL,2EN,3br tn,5jm,4ME,3er EN,3qj EN,3ez,2EREN,2ERIN2,2ESH2,2EZEN,3br A",
     "5cz LAL,7br LAL,4AN,4BAD,4DUN3 id,6id,4HA,5id,4yb id,4pr,5ez,4KU3,4LA,4LAL br LAL,4LI,4LU,4U2",
     "4UD,2GA,3id,2GA2,3br A cz DA cz HA,6HA,6yb,4AB2 jm cz TAB,4AN,4pw,4ASH2 cz GAL,4BAD,4gc cz RA",
     "4BUR,5cz RA,4DA,4DI,4DIM br tp,4DUB,4EL,5cz LA,4EN,5br tn jm,4tn jm,4xt,4GI,4GI4,5cz A",
     "4GIR2 cz SU,4HA cz LU cz ESH2,4HAL,5cz LA,4HI cz LI,4HUB2,4yb id,4ISH cz HU cz pw,4KAK,4pr",
     "4KID,5cz LAL,4KU3 cz AN,4LA,4ME cz EN,4MI,4ow,5dv ow,4PA,4SAL,4SAR,4tp,5cz TUR,4SHID,4SUM,4ur",
     "4U,4UD,5cz DU,3dv GA2,2GABA,3er GABA,2GAD,3dv GAD xt dv xt,2GAL,3GAD dv GAD xt dv xt,2GALAM",
     "2GAM,2GAN,2tn,3jm,3dv tn,3er tn,2xt,2GAR3,2GASHAN,2GESHTIN,3br KUR,2GI,3br E,4U,3er GI,2GI4",
     "3dv GI4,3er GI4,2GIDIM,2GIR2,3id,2GIR3,3br A cz yb,4tn jm,4yb,4LU cz yb,4PA,2GISAL,2vl,3er vl",
     "3br BAD,4ur,3jm,2GU,3er GU,2GU2,3br KAK,5br yb id,4ow,4SAL cz TUG2,3id,2GUD,3br A cz KUR,4KUR",
     "3dv GUD LUGAL,2GUL,2GUM,3br tp,2GUR,2GUR7,2GURUN,2GURUSH,2HA,3jm,3id,2HAL,2HI,3br pw,4ASH2",
     "4BAD,4pu,4GAD,4KIN,4ow,4tp,4U,2HU,2HUB2,3br AN,4HAL,4pr,4LISH,4UD,2HUL2,2I,3A,2IB,2IDIM",
     "3dv IDIM BUR,5ez,2IG,2yb,3DIB,3RI,3dv yb SHIR dv SHIR UD dv UD,3id,2IL,3br tn jm,2IL2,2IM",
     "3br ur,3er IM,3qj IM,3ez,2IMIN,2IN,2IR,2ISH,2KA,3br A,4AD,5cz KU3,4ASH2,4BAD,4BALAG,4gc,4BI",
     "4ERIN2,4ESH2,4GA,4GAL,4tn jm,4xt,5cz SHA3 cz A,4GI,4GIR2,4vl cz SAR,5er vl,4GU,4GUR7,4yb,4IM",
     "4KAK,4KI,4KID,4LI,4LU,4ME,5cz DU,6GI,6TE,4MI,5cz NUNUZ,4NE,4ow,4PI,4RU,4SA,4SAR,4kf,4tp,4SHID",
     "4SHU,4SIG,4SUHUR,4TAR,4U,4U2,4UD,4UMUM br PA,4USH,4ZI,2KA2,3er KA2,2KAB,2KAD2,2KAD3,2KAD4",
     "2KAD5,3dv KAD5,2KAK,3br yb id,2KAL,3br BAD,3er KAL,2KAM2,2KAM4,2pr,3tv br U dv tv br U"],
    ["3dv pr tv br U dv tv br U,2KESH2,2KI,3br BAD,4U,4UD,2KID,2KIN,2KISAL,2KISH,2KISIM5,3dv KISIM5",
     "2KU,3dv HI br ASH2 KU dv HI br ASH2,2KU3,2KU4,3hx af,2KU7,2KUL,3id,2KUN,2KUR,3qj KUR,2KUSHU2",
     "2KWU318,2LA,2tv,3br A,5cz DA cz HA,6xt,6LAL,4AL,4AN,4pw ZIDA jm,4BAD,4BI,4DAR,4EN,4GA,4xt",
     "4GUD,5cz GUD,4HA,4HAL,4HI br ow,4yb id,4IM,5cz HA,6LU,4KI,4KIN,4KU3,4KUL,5cz HI cz A,4tv",
     "4LISH,4LU,4LUL,4ME,5cz EN,4MUSH,4NE,4tp cz SUM,4SHITA cz vl cz ERIN2,7jm,4SHU2,5cz SHU2,4SUM",
     "4TAG,4ur,4TE cz A cz SU cz NA,4U,5cz A,6U cz U,4U2 cz pw,4UD,4USH,3ez,2LAGAR,3br tp,5cz SUM",
     "3id,4dv LAGAR id tp,2LAHSHU,2LAL,3br LAL,2sf,3br KUR,5cz RU,2LI,2LIL,2LIMMU2,2LISH,2LU",
     "3br BAD,2LU2,3br AL,4BAD,4ESH2,5jm,4tn jm,4HI br BAD,4IM,4KAD2,4KAD3,5cz pw,4KI,4LA cz pw,4tv",
     "4ME cz EN,4NE,4NU,4SI cz pw,4SIK2 cz BU,4TUG2,3jm,3er LU2,3qj LU2,3ez,3tb,2LU3,2LUGAL",
     "3dv LUGAL,3qj LUGAL,3tb,2LUH,2LUL,2LUM,3dv LUM,5xt dv xt,2MA,3br ur,3id,2MA2,2MAH,2MAR,2MASH",
     "2MASH2,2ME,2MES,2MI,2MIN,2MU,3dv MU,2MUG,3id,2MUNSUB,2MURGU2,2MUSH,3br A,4KUR,4ZA,3dv MUSH",
     "5br A cz NA,3er MUSH,2MUSH3,3br A,5cz DI,4DI,3id,2NA,2NA2,2NAGA,3cb,3br SHU jm,3qj NAGA",
     "2NAGAR,2NAM NUTILLU,2NAM,2NAM2,2NE,3br A,4UD,3tb,2NI,3br E,2NI2,2NIM,3br tn jm,4xt cz tn jm",
     "2NINDA2,3br AN,4pw,5cz pw,4GUD,4ME cz tn jm,4NE,4ow,4tp,5cz A AN,6pw,7cz pw,4U2 cz pw,4USH",
     "2NISAG,2NU,2NU11,2ow,3LAGAR br xt,5MASH,5SAL,6dv ow LAGAR br SAL,5USH,3jm,3dv ow,3er ow",
     "5LAGAR dv LAGAR,2NUNUZ,3AB2 br ASHGAB,5BI,5DUG,5GUD,5yb id,5KAD3,5LA,5NE,5SILA3,5U2",
     "3KISIM5 br BI,6U,2PA,2PAD,2PAN,2PAP,2PESH2,2PI,3br A,4AB,4BI,4BU,4E,4I,4IB,4U,4U2,3er PI",
     "2PIRIG,3br KAL,4UD,4ZA,3qj PIRIG,2RA,2RAB,2RI,2RU,2SA,2SAG NUTILLU,2SAG,3br A,4DU,4DUB,4HA",
     "4KAK,4KUR,4LUM,4MI,4ow,4SAL,4SHID,4TAB,4U2,4UB,4UM,4UR,4USH,3dv SAG,3id,2SAL,3tv br ASH2",
     "2SANGA2,2SAR,2kf,2SHA3,3br A,4BAD,4vl,4NE,4SHU2,4TUR,4U,5cz A,2SHA6,2SHAB6,2wx,2tp,3HU",
     "3dv tp GAD dv GAD xt dv xt,5TAB dv TAB xt dv xt,2SHEG9,2SHEN,2SHESH,2SHESH2,2SHESHLAM,2SHID",
     "3br A,4IM,2SHIM,3br A,4BAL,4BULUG,4DIN,4xt,4yb,5id,4KUSHU2,4LUL,4MUG,4SAL,2SHINIG,2SHIR,3jm",
     "3dv SHIR BUR dv BUR,2SHITA,2SHU,3dv cb SHU,2SHU2,2SHUBUR,2SI,3id,2SIG,2SIG4,3dv SIG4 SHU2",
     "2SIK2,2SILA3,2SU,3dv SU,2SUD,2SUD2,2SUHUR,2SUM,2SUMASH,2SUR,2SUR9,2TA,3di,3br HI,4MI,3id,2TAB",
     "3dv TAB NI dv NI pu dv pu,3ez,2TAG,3br BI,4GUD,4tp,4SHU,4TUG2,4UD,2ur,2TAR,2TE,3id,2TI,3jm",
     "2TIL,2TIR,3br ur,3dv TIR,5GAD dv GAD xt dv xt,2TU,2TUG2,2TUK,2TUM,2TUR,3dv TUR ZA dv ZA,2U",
     "3GUD,3U U,3dv U PA dv PA xt dv xt,5SUR dv SUR,5U bq dv U bq,2U2,2UB,2UD,3KUSHU2,3br BAD,4MI",
     "4U cz U cz U,9id,3id,3tb,4br BAD,2UDUG,2UM,3br tv,4ME cz DA,4SHA3,4U,2UMBIN,2UMUM,3br pr,4PA",
     "2UN,3id,2UR,3er UR,3tb,2UR2,3br A cz HA,6NA,4AL,4HA,4ow,4U2,5cz pw,6BI,2UR4,2URI,2URI3,2URU",
     "3br A,4ASHGAB,4gc,4DUN,4GA,4GAL,4tn jm,4xt,4GU,4HA,4yb,4IM,4ISH,4KI,4LUM,4MIN,4PA,4tp,4SIG4",
     "4TU,4U cz GUD,4UD,4URUDA,2URUDA,3br U,2USH,3br A,4KU,4KUR,4ur,2USHX,2USH2,2USHUMX,2UTUKI,2UZ3",
     "3br pr,2UZU,2ZA,3jm,3ez br KUR,2ZAG,2ZAMX,2ZE2,2ZI,3dv ZI,2ZI3,2ZIB,3KABA jm,2ZIG,2ZIZ2,2ZU",
     "2ZU5,3br A,2ZUBUR,2ZUM,2KAP ELAMITE,2AB br ow,2AB2 br A,2AMAR br KUG",
     "2DAG KISIM5 br U2 cz MASH,2DAG3,2pu cz SHU,2DUB br tp,2EZEN br GUD,4tp,2GA2 br AN cz KAK cz A",
     "4ASH2,2GE22,2GIG,2HUSH,2KA br ANSHE,4ASH3,4vl,4GUD,4HI br ASH2,4LUM,4PA,4SHUL,4TU,4UR2",
     "2tv br GI,2LU2 tb br BAD,3br ESH2 cz LAL,4SHU,2MESH,2MUSH3 br ZA,2NA4,2NIN,2NIN9",
     "2NINDA2 br BAL,4GI,2NU11 cp fy dn,2PESH2 di,2PIR2,2SAG br yb id,2TI2,2UM br ME,2U U",
     "12400:1NUMERIC ak cj pw,3aw pw,3bt pw,3by pw,3fu pw,3bu pw,3bs pw,3dj pw,3aw pu,3bt pu,3by pu",
     "3fu pu,3bu pu,3bs pu,3dj pu,3bt U,3by U,3fu U,3bu U,3bs U,3dj U,3cr zu,3cj zu,3aw zu,3bt zu",
     "3by zu,3fu zu,3bu zu,3bs zu,3dj zu,3cr GESHU,3cj GESHU,3aw GESHU,3bt GESHU,3by GESHU,3cj wx",
     "3aw wx,5hx af,3bt wx,3by wx,3fu wx,3bu wx,3bs wx,3dj wx,3cr SHARU,3cj SHARU,3aw SHARU,5hx af",
     "3bt SHARU,3by SHARU,3wx br GAL cz pu,7MIN,3cr BURU,3cj BURU,3aw BURU,5hx af,3bt BURU,3by BURU",
     "3aw hx af ESH16,6ESH21,3bt hx af LIMMU,6LIMMU4,6LIMMU A,7B,3fu hx af ASH9,3bu hx af IMIN3",
     "6IMIN A,7B,3bs hx af USSU,6USSU3,3dj hx af ILIMMU,6ILIMMU3,6ILIMMU4,6ILIMMU A,3cj pw jm",
     "3aw pw jm,3bt pw jm,3by pw jm,3fu pw jm,3cr BAN2,3cj BAN2,3aw BAN2,3bt BAN2,5hx af,3by BAN2",
     "5hx af,3NIGIDAMIN,3NIGIDAESH,3cr ESHE3,3cj ESHE3,3cr rx pu,3cj ub pu,3by SIXTHS pu",
     "3cr rx hx af A,3cj ub hx af A,3cr ie pw,4fm pw,3nb ASSYRIAN cr SIXTH,6fm,3cr fm GUR,4dd GUR",
     "3ELAMITE cr rx,4cj ub,4ni,4ik,3bt U hx af,3by U hx af,3fu U hx af,3bu U hx af,3bs U hx af",
     "3dj U hx af,12470:1cc ak nb ASSYRIAN wa yd,3an io,3dm io,4TRICOLON,4QUADCOLON",
     "12480:1ak AB br ow jm,4SHU2,2AD br ESH2,2BAD br pu jm,2BAHAR2 br AB2,4NI,4ZA,2BU dv BU br NA2",
     "2DA br ur,2DAG br KUR,2DIM br yb,4U U U,2DIM2 br UD,2DUG br ANSHE,4pw,5AT av,4DIN,4DUN,4ERIN2",
     "4GA,4GI,4GIR2 id,4vl,4HA,4HI,4yb id,4pr,4KUR,4KUSHU2,5cz pr,4LAK-020,4sf,5br KUR,4LUH cz vl",
     "4MASH,4MES,4MI,4NI,4PI,4tp,4SI id,2E2 br KUR,4PAP,2ERIN2 X,2ESH2 er ESH2,2EZEN tb br pw,5HI",
     "5yb id,5LA,5LAL,5ME,5MES,5SU,3br SU,2GA2 br BAHAR2,4DIM id,4DUG br yb id,6pr,4EREN,4GA",
     "4xt cz DI,6NE,4HA cz A,4KUSHU2 cz pr,4sf,5br KUR,4LUH,4MUSH,4NE,5cz E2,6GI,4SHIM,4ZIZ2",
     "2GABA cp fy dn,2GESHTIN br U,2vl br vl er vl,2GU2 br yb id,2GUD cz vl br ur,2HA jm id",
     "2HI br pw dv HI br pw,2KA br BU,4KA,4U U U,4UR,2tv br ZU dv ZU,2LAK-003,2LAK-021,2LAK-025",
     "2LAK-030,2LAK-050,2LAK-051,2LAK-062,2LAK-079 dv LAK-079 id,2LAK-080,2LAK-081 dv LAK-081",
     "2LAK-092,2LAK-130,2LAK-142,2LAK-210,2LAK-219,2LAK-220,2LAK-225,2LAK-228,2LAK-238,2LAK-265",
     "2LAK-266,2LAK-343,2LAK-347,2LAK-348,2LAK-383,2LAK-384,2LAK-390,2LAK-441,2LAK-449,3br GU,4yb",
     "4PAP cz LU3,6PAP cz LU3,4U2 cz BA,2LAK-450,2LAK-457,2LAK-470,2LAK-483,2LAK-490,2LAK-492",
     "2LAK-493,2LAK-495,2LAK-550,2LAK-608,2LAK-617,3br pw,4BAD,4DUN3 id id,4KU3,4LA,4TAR,4TE,4U2",
     "4UD,4URUDA,2LAK-636,2LAK-648,3br DUB,4GA,4yb,5id,4NI,4PAP cz PAP cz LU3,4SHESH cz KI,4UD",
     "4URUDA,2LAK-724,2LAK-749,2LU2 id br pw,3br pu,4HAL,4PAP,5cz PAP cz LU3,4ur,2MI cz ZA7"],
    ["2MUSH dv MUSH br GA,6KAK,2NINDA2 br DIM id,4vl,4GUL,4HI,4KESH2,4LAK-050,4MASH,4PAP cz PAP,4U",
     "5cz U,4URUDA,2SAG id br HA,3br EN,4tp AT av,4ur,2SHA6 jm,2tp dv tp,3cz HUB2,4NAM2,4SAR",
     "2SHU2 cz DUG br NI,4E2 br AN,2SI br ur,2ur cz SAG,2TUM br tn jm,4aw pu,2UR2 cb,3br UD",
     "2URU br DARA3,4LAK-668,4LU3,2ZA7,2ZU dv ZU cz SAR,2ZU5 br aw pu jm",
     "12F90:0CYPRO-MINOAN ak CM001,2CM002,2CM004,2CM005,2CM006,2CM007,2CM008,2CM009,2CM010,2CM011",
     "2CM012,2CM012B,2CM013,2CM015,2CM017,2CM019,2CM021,2CM023,2CM024,2CM025,2CM026,2CM027,2CM028",
     "2CM029,2CM030,2CM033,2CM034,2CM035,2CM036,2CM037,2CM038,2CM039,2CM040,2CM041,2CM044,2CM046",
     "2CM047,2CM049,2CM050,2CM051,2CM052,2CM053,2CM054,2CM055,2CM056,2CM058,2CM059,2CM060,2CM061",
     "2CM062,2CM063,2CM064,2CM066,2CM067,2CM068,2CM069,2CM070,2CM071,2CM072,2CM073,2CM074,2CM075",
     "2CM075B,2CM076,2CM078,2CM079,2CM080,2CM081,2CM082,2CM083,2CM084,2CM085,2CM086,2CM087,2CM088",
     "2CM089,2CM090,2CM091,2CM092,2CM094,2CM095,2CM096,2CM097,2CM098,2CM099,2CM100,2CM101,2CM102",
     "2CM103,2CM104,2CM105,2CM107,2CM108,2CM109,2CM110,2CM112,2CM114,2CM301,2CM302",
     "13000:0EGYPTIAN HIEROGLYPH A001,2A002,2A003,2A004,2A005,2A005A,2A006,2A006A,2A006B,2A007",
     "2A008,2A009,2A010,2A011,2A012,2A013,2A014,2A014A,2A015,2A016,2A017,2A017A,2A018,2A019,2A020",
     "2A021,2A022,2A023,2A024,2A025,2A026,2A027,2A028,2A029,2A030,2A031,2A032,2A032A,2A033,2A034",
     "2A035,2A036,2A037,2A038,2A039,2A040,2A040A,2A041,2A042,2A042A,2A043,2A043A,2A044,2A045,2A045A",
     "2A046,2A047,2A048,2A049,2A050,2A051,2A052,2A053,2A054,2A055,2A056,2A057,2A058,2A059,2A060",
     "2A061,2A062,2A063,2A064,2A065,2A066,2A067,2A068,2A069,2A070,2B001,2B002,2B003,2B004,2B005",
     "2B005A,2B006,2B007,2B008,2B009,2C001,2C002,2C002A,2C002B,2C002C,2C003,2C004,2C005,2C006,2C007",
     "2C008,2C009,2C010,2C010A,2C011,2C012,2C013,2C014,2C015,2C016,2C017,2C018,2C019,2C020,2C021",
     "2C022,2C023,2C024,2D001,2D002,2D003,2D004,2D005,2D006,2D007,2D008,2D008A,2D009,2D010,2D011",
     "2D012,2D013,2D014,2D015,2D016,2D017,2D018,2D019,2D020,2D021,2D022,2D023,2D024,2D025,2D026",
     "2D027,2D027A,2D028,2D029,2D030,2D031,2D031A,2D032,2D033,2D034,2D034A,2D035,2D036,2D037,2D038",
     "2D039,2D040,2D041,2D042,2D043,2D044,2D045,2D046,2D046A,2D047,2D048,2D048A,2D049,2D050,2D050A",
     "2D050B,2D050C,2D050D,2D050E,2D050F,2D050G,2D050H,2D050I,2D051,2D052,2D052A,2D053,2D054,2D054A",
     "2D055,2D056,2D057,2D058,2D059,2D060,2D061,2D062,2D063,2D064,2D065,2D066,2D067,2D067A,2D067B",
     "2D067C,2D067D,2D067E,2D067F,2D067G,2D067H,2E001,2E002,2E003,2E004,2E005,2E006,2E007,2E008",
     "2E008A,2E009,2E009A,2E010,2E011,2E012,2E013,2E014,2E015,2E016,2E016A,2E017,2E017A,2E018,2E019",
     "2E020,2E020A,2E021,2E022,2E023,2E024,2E025,2E026,2E027,2E028,2E028A,2E029,2E030,2E031,2E032",
     "2E033,2E034,2E034A,2E036,2E037,2E038,2F001,2F001A,2F002,2F003,2F004,2F005,2F006,2F007,2F008",
     "2F009,2F010,2F011,2F012,2F013,2F013A,2F014,2F015,2F016,2F017,2F018,2F019,2F020,2F021,2F021A",
     "2F022,2F023,2F024,2F025,2F026,2F027,2F028,2F029,2F030,2F031,2F031A,2F032,2F033,2F034,2F035",
     "2F036,2F037,2F037A,2F038,2F038A,2F039,2F040,2F041,2F042,2F043,2F044,2F045,2F045A,2F046,2F046A",
     "2F047,2F047A,2F048,2F049,2F050,2F051,2F051A,2F051B,2F051C,2F052,2F053,2G001,2G002,2G003,2G004",
     "2G005,2G006,2G006A,2G007,2G007A,2G007B,2G008,2G009,2G010,2G011,2G011A,2G012,2G013,2G014,2G015",
     "2G016,2G017,2G018,2G019,2G020,2G020A,2G021,2G022,2G023,2G024,2G025,2G026,2G026A,2G027,2G028",
     "2G029,2G030,2G031,2G032,2G033,2G034,2G035,2G036,2G036A,2G037,2G037A,2G038,2G039,2G040,2G041",
     "2G042,2G043,2G043A,2G044,2G045,2G045A,2G046,2G047,2G048,2G049,2G050,2G051,2G052,2G053,2G054",
     "2H001,2H002,2H003,2H004,2H005,2H006,2H006A,2H007,2H008,2I001,2I002,2I003,2I004,2I005,2I005A",
     "2I006,2I007,2I008,2I009,2I009A,2I010,2I010A,2I011,2I011A,2I012,2I013,2I014,2I015,2K001,2K002",
     "2K003,2K004,2K005,2K006,2K007,2K008,2L001,2L002,2L002A,2L003,2L004,2L005,2L006,2L006A,2L007",
     "2L008,2M001,2M001A,2M001B,2M002,2M003,2M003A,2M004,2M005,2M006,2M007,2M008,2M009,2M010,2M010A",
     "2M011,2M012,2M012A,2M012B,2M012C,2M012D,2M012E,2M012F,2M012G,2M012H,2M013,2M014,2M015,2M015A",
     "2M016,2M016A,2M017,2M017A,2M018,2M019,2M020,2M021,2M022,2M022A,2M023,2M024,2M024A,2M025,2M026",
     "2M027,2M028,2M028A,2M029,2M030,2M031,2M031A,2M032,2M033,2M033A,2M033B,2M034,2M035,2M036,2M037",
     "2M038,2M039,2M040,2M040A,2M041,2M042,2M043,2M044,2N001,2N002,2N003,2N004,2N005,2N006,2N007",
     "2N008,2N009,2N010,2N011,2N012,2N013,2N014,2N015,2N016,2N017,2N018,2N018A,2N018B,2N019,2N020",
     "2N021,2N022,2N023,2N024,2N025,2N025A,2N026,2N027,2N028,2N029,2N030,2N031,2N032,2N033,2N033A",
     "2N034,2N034A,2N035,2N035A,2N036,2N037,2N037A,2N038,2N039,2N040,2N041,2N042,2NL001,2NL002",
     "2NL003,2NL004,2NL005,2NL005A,2NL006,2NL007,2NL008,2NL009,2NL010,2NL011,2NL012,2NL013,2NL014",
     "2NL015,2NL016,2NL017,2NL017A,2NL018,2NL019,2NL020,2NU001,2NU002,2NU003,2NU004,2NU005,2NU006",
     "2NU007,2NU008,2NU009,2NU010,2NU010A,2NU011,2NU011A,2NU012,2NU013,2NU014,2NU015,2NU016,2NU017",
     "2NU018,2NU018A,2NU019,2NU020,2NU021,2NU022,2NU022A,2O001,2O001A,2O002,2O003,2O004,2O005",
     "2O005A,2O006,2O006A,2O006B,2O006C,2O006D,2O006E,2O006F,2O007,2O008,2O009,2O010,2O010A,2O010B",
     "2O010C,2O011,2O012,2O013,2O014,2O015,2O016,2O017,2O018,2O019,2O019A,2O020,2O020A,2O021,2O022",
     "2O023,2O024,2O024A,2O025,2O025A,2O026,2O027,2O028,2O029,2O029A,2O030,2O030A,2O031,2O032,2O033",
     "2O033A,2O034,2O035,2O036,2O036A,2O036B,2O036C,2O036D,2O037,2O038,2O039,2O040,2O041,2O042",
     "2O043,2O044,2O045,2O046,2O047,2O048,2O049,2O050,2O050A,2O050B,2O051,2P001,2P001A,2P002,2P003",
     "2P003A,2P004,2P005,2P006,2P007,2P008,2P009,2P010,2P011,2Q001,2Q002,2Q003,2Q004,2Q005,2Q006",
     "2Q007,2R001,2R002,2R002A,2R003,2R003A,2R003B,2R004,2R005,2R006,2R007,2R008,2R009,2R010,2R010A",
     "2R011,2R012,2R013,2R014,2R015,2R016,2R016A,2R017,2R018,2R019,2R020,2R021,2R022,2R023,2R024",
     "2R025,2R026,2R027,2R028,2R029,2S001,2S002,2S002A,2S003,2S004,2S005,2S006,2S006A,2S007,2S008",
     "2S009,2S010,2S011,2S012,2S013,2S014,2S014A,2S014B,2S015,2S016,2S017,2S017A,2S018,2S019,2S020",
     "2S021,2S022,2S023,2S024,2S025,2S026,2S026A,2S026B,2S027,2S028,2S029,2S030,2S031,2S032,2S033"],
    ["2S034,2S035,2S035A,2S036,2S037,2S038,2S039,2S040,2S041,2S042,2S043,2S044,2S045,2S046,2T001",
     "2T002,2T003,2T003A,2T004,2T005,2T006,2T007,2T007A,2T008,2T008A,2T009,2T009A,2T010,2T011",
     "2T011A,2T012,2T013,2T014,2T015,2T016,2T016A,2T017,2T018,2T019,2T020,2T021,2T022,2T023,2T024",
     "2T025,2T026,2T027,2T028,2T029,2T030,2T031,2T032,2T032A,2T033,2T033A,2T034,2T035,2T036,2U001",
     "2U002,2U003,2U004,2U005,2U006,2U006A,2U006B,2U007,2U008,2U009,2U010,2U011,2U012,2U013,2U014",
     "2U015,2U016,2U017,2U018,2U019,2U020,2U021,2U022,2U023,2U023A,2U024,2U025,2U026,2U027,2U028",
     "2U029,2U029A,2U030,2U031,2U032,2U032A,2U033,2U034,2U035,2U036,2U037,2U038,2U039,2U040,2U041",
     "2U042,2V001,2V001A,2V001B,2V001C,2V001D,2V001E,2V001F,2V001G,2V001H,2V001I,2V002,2V002A,2V003",
     "2V004,2V005,2V006,2V007,2V007A,2V007B,2V008,2V009,2V010,2V011,2V011A,2V011B,2V011C,2V012",
     "2V012A,2V012B,2V013,2V014,2V015,2V016,2V017,2V018,2V019,2V020,2V020A,2V020B,2V020C,2V020D",
     "2V020E,2V020F,2V020G,2V020H,2V020I,2V020J,2V020K,2V020L,2V021,2V022,2V023,2V023A,2V024,2V025",
     "2V026,2V027,2V028,2V028A,2V029,2V029A,2V030,2V030A,2V031,2V031A,2V032,2V033,2V033A,2V034",
     "2V035,2V036,2V037,2V037A,2V038,2V039,2V040,2V040A,2W001,2W002,2W003,2W003A,2W004,2W005,2W006",
     "2W007,2W008,2W009,2W009A,2W010,2W010A,2W011,2W012,2W013,2W014,2W014A,2W015,2W016,2W017,2W017A",
     "2W018,2W018A,2W019,2W020,2W021,2W022,2W023,2W024,2W024A,2W025,2X001,2X002,2X003,2X004,2X004A",
     "2X004B,2X005,2X006,2X006A,2X007,2X008,2X008A,2Y001,2Y001A,2Y002,2Y003,2Y004,2Y005,2Y006,2Y007",
     "2Y008,2Z001,2Z002,2Z002A,2Z002B,2Z002C,2Z002D,2Z003,2Z003A,2Z003B,2Z004,2Z004A,2Z005,2Z005A",
     "2Z006,2Z007,2Z008,2Z009,2Z010,2Z011,2Z012,2Z013,2Z014,2Z015,2Z015A,2Z015B,2Z015C,2Z015D",
     "2Z015E,2Z015F,2Z015G,2Z015H,2Z015I,2Z016,2Z016A,2Z016B,2Z016C,2Z016D,2Z016E,2Z016F,2Z016G",
     "2Z016H,2AA001,2AA002,2AA003,2AA004,2AA005,2AA006,2AA007,2AA007A,2AA007B,2AA008,2AA009,2AA010",
     "2AA011,2AA012,2AA013,2AA014,2AA015,2AA016,2AA017,2AA018,2AA019,2AA020,2AA021,2AA022,2AA023",
     "2AA024,2AA025,2AA026,2AA027,2AA028,2AA029,2AA030,2AA031,2AA032,13430:2an zo,2as zo",
     "2INSERT AT qy START,4ha START,4qy sp,4ha sp,2hn bb,2BEGIN SEGMENT,2sp SEGMENT",
     "14400:0ANATOLIAN HIEROGLYPH A001,2A002,2A003,2A004,2A005,2A006,2A007,2A008,2A009,2A010,2A010A",
     "2A011,2A012,2A013,2A014,2A015,2A016,2A017,2A018,2A019,2A020,2A021,2A022,2A023,2A024,2A025",
     "2A026,2A026A,2A027,2A028,2A029,2A030,2A031,2A032,2A033,2A034,2A035,2A036,2A037,2A038,2A039",
     "2A039A,2A040,2A041,2A041A,2A042,2A043,2A044,2A045,2A045A,2A046,2A046A,2A046B,2A047,2A048",
     "2A049,2A050,2A051,2A052,2A053,2A054,2A055,2A056,2A057,2A058,2A059,2A060,2A061,2A062,2A063",
     "2A064,2A065,2A066,2A066A,2A066B,2A066C,2A067,2A068,2A069,2A070,2A071,2A072,2A073,2A074,2A075",
     "2A076,2A077,2A078,2A079,2A080,2A081,2A082,2A083,2A084,2A085,2A086,2A087,2A088,2A089,2A090",
     "2A091,2A092,2A093,2A094,2A095,2A096,2A097,2A097A,2A098,2A098A,2A099,2A100,2A100A,2A101,2A101A",
     "2A102,2A102A,2A103,2A104,2A104A,2A104B,2A104C,2A105,2A105A,2A105B,2A106,2A107,2A107A,2A107B",
     "2A107C,2A108,2A109,2A110,2A110A,2A110B,2A111,2A112,2A113,2A114,2A115,2A115A,2A116,2A117,2A118",
     "2A119,2A120,2A121,2A122,2A123,2A124,2A125,2A125A,2A126,2A127,2A128,2A129,2A130,2A131,2A132",
     "2A133,2A134,2A135,2A135A,2A136,2A137,2A138,2A139,2A140,2A141,2A142,2A143,2A144,2A145,2A146",
     "2A147,2A148,2A149,2A150,2A151,2A152,2A153,2A154,2A155,2A156,2A157,2A158,2A159,2A160,2A161",
     "2A162,2A163,2A164,2A165,2A166,2A167,2A168,2A169,2A170,2A171,2A172,2A173,2A174,2A175,2A176",
     "2A177,2A178,2A179,2A180,2A181,2A182,2A183,2A184,2A185,2A186,2A187,2A188,2A189,2A190,2A191",
     "2A192,2A193,2A194,2A195,2A196,2A197,2A198,2A199,2A200,2A201,2A202,2A202A,2A202B,2A203,2A204",
     "2A205,2A206,2A207,2A207A,2A208,2A209,2A209A,2A210,2A211,2A212,2A213,2A214,2A215,2A215A,2A216",
     "2A216A,2A217,2A218,2A219,2A220,2A221,2A222,2A223,2A224,2A225,2A226,2A227,2A227A,2A228,2A229",
     "2A230,2A231,2A232,2A233,2A234,2A235,2A236,2A237,2A238,2A239,2A240,2A241,2A242,2A243,2A244",
     "2A245,2A246,2A247,2A248,2A249,2A250,2A251,2A252,2A253,2A254,2A255,2A256,2A257,2A258,2A259",
     "2A260,2A261,2A262,2A263,2A264,2A265,2A266,2A267,2A267A,2A268,2A269,2A270,2A271,2A272,2A273",
     "2A274,2A275,2A276,2A277,2A278,2A279,2A280,2A281,2A282,2A283,2A284,2A285,2A286,2A287,2A288",
     "2A289,2A289A,2A290,2A291,2A292,2A293,2A294,2A294A,2A295,2A296,2A297,2A298,2A299,2A299A,2A300",
     "2A301,2A302,2A303,2A304,2A305,2A306,2A307,2A308,2A309,2A309A,2A310,2A311,2A312,2A313,2A314",
     "2A315,2A316,2A317,2A318,2A319,2A320,2A321,2A322,2A323,2A324,2A325,2A326,2A327,2A328,2A329",
     "2A329A,2A330,2A331,2A332A,2A332B,2A332C,2A333,2A334,2A335,2A336,2A336A,2A336B,2A336C,2A337",
     "2A338,2A339,2A340,2A341,2A342,2A343,2A344,2A345,2A346,2A347,2A348,2A349,2A350,2A351,2A352",
     "2A353,2A354,2A355,2A356,2A357,2A358,2A359,2A359A,2A360,2A361,2A362,2A363,2A364,2A364A,2A365",
     "2A366,2A367,2A368,2A368A,2A369,2A370,2A371,2A371A,2A372,2A373,2A374,2A375,2A376,2A377,2A378",
     "2A379,2A380,2A381,2A381A,2A382,2A383 RA OR RI,2A383A,2A384,2A385,2A386,2A386A,2A387,2A388",
     "2A389,2A390,2A391,2A392,2A393 bs,2A394,2A395,2A396,2A397,2A398,2A399,2A400,2A401,2A402,2A403",
     "2A404,2A405,2A406,2A407,2A408,2A409,2A410 BEGIN zj bi,2A410A sp zj bi,2A411,2A412,2A413,2A414",
     "2A415,2A416,2A417,2A418,2A419,2A420,2A421,2A422,2A423,2A424,2A425,2A426,2A427,2A428,2A429",
     "2A430,2A431,2A432,2A433,2A434,2A435,2A436,2A437,2A438,2A439,2A440,2A441,2A442,2A443,2A444",
     "2A445,2A446,2A447,2A448,2A449,2A450,2A450A,2A451,2A452,2A453,2A454,2A455,2A456,2A457,2A457A",
     "2A458,2A459,2A460,2A461,2A462,2A463,2A464,2A465,2A466,2A467,2A468,2A469,2A470,2A471,2A472",
     "2A473,2A474,2A475,2A476,2A477,2A478,2A479,2A480,2A481,2A482,2A483,2A484,2A485,2A486,2A487",
     "2A488,2A489,2A490,2A491,2A492,2A493,2A494,2A495,2A496,2A497,2A501,2A502,2A503,2A504,2A505",
     "2A506,2A507,2A508,2A509,2A510,2A511,2A512,2A513,2A514,2A515,2A516,2A517,2A518,2A519,2A520",
     "2A521,2A522,2A523,2A524,2A525,2A526,2A527,2A528,2A529,2A530",
     "16800:0BAMUM aa PHASE-A NGKUE MFON,3GBIEE FON,3PON MFON PIPAEMGBIEE,5PIPAEMBA,3NAA MFON"],
    ["3SHUENSHUET,3TITA MFON,3NZA MFON,3SHINDA PA NJI,3PON PA NJI PIPAEMGBIEE,6PIPAEMBA,3MAEMBGBIEE",
     "3TU MAEMBA,3NGANGU,3MAEMVEUX,3MANSUAE,3MVEUAENGAM,3SEUNYAM,3NTOQPEN,3KEUKEUTNDA,3NKINDI,3SUU",
     "3NGKUENZEUM,3LAPAQ,3LET KUT,3NTAP MFAA,3MAEKEUP,3PASHAE,3GHEUAERAE,3PAMSHAE,3MON NGGEUAET",
     "3NZUN MEUT,3U YUQ NAE,3GHEUAEGHEUAE,3NTAP NTAA,3SISA,3MGBASA,3MEUNJOMNDEUQ,3MOOMPUQ,3KAFA",
     "3PA LEERAEWA,3NDA LEERAEWA,3PET,3MAEMKPEN,3NIKA,3PUP,3TUAEP,3LUAEP,3SONJAM,3TEUTEUWEN,3MAENYI",
     "3KET,3NDAANGGEUAET,3KUOQ,3MOOMEUT,3SHUM,3LOMMAE,3FIRI,3ROM,3KPOQ,3SOQ,3MAP PIEET,3SHIRAE",
     "3NTAP,3SHOQ NSHUT YUM,3NYIT MONGKEUAEQ,3PAARAE,3NKAARAE,3UNKNOWN,3NGGEN,3MAESI,3NJAM,3MBANYI",
     "3NYET,3TEUAEN,3SOT,3PAAM,3NSHIEE,3MAEM,3NYI,3KAQ,3NSHA,3VEE,3LU,3NEN,3NAQ,3MBAQ",
     "2PHASE-B NSHUET,3TU MAEMGBIEE,3SIEE,3SET TU,3LOM NTEUM,3MBA MAELEE,3KIEEM,3YEURAE,3MBAARAE",
     "3KAM,3PEESHI,3YAFU LEERAEWA,3sf NSHUT NYAM,3NTIEE SHEUOQ,3NDU NJAA,3GHEUGHEUAEM,3PIT",
     "3TU NSIEE,3SHET NJAQ,3SHEUAEQTU,3MFON TEUAEQ,3MBIT MBAAKET,3NYI NTEUM,3KEUPUQ,3GHEUGHEN",
     "3KEUYEUX,3LAANAE,3PARUM,3VEUM,3NGKINDI MVOP,3NGGEU MBU,3WUAET,3SAKEUAE,3TAAM,3MEUQ,3NGGUOQ",
     "4ed,3MFIYAQ,3SUE,3MBEURI,3MONTIEEN,3NYAEMAE,3PUNGAAM,3MEUT NGGEET,3FEUX,3MBUOQ,3FEE,3KEUAEM",
     "3MA NJEUAENA,4NJUQA,3LET,3NGGAAM,3NSEN,3MA,3KIQ,3NGOM,2PHASE-C NGKUE MAEMBA,3NZA,3YUM",
     "3WANGKUOQ,3NGGEN,3NDEUAEREE,3NGKAQ,3GHARAE,3MBEEKEET,3GBAYI,3NYIR MKPARAQ MEUN,3NTU MBIT",
     "3MBEUM,3PIRIEEN,3NDOMBU,3MBAA CABBAGE-TREE,3KEUSHEUAEP,3GHAP,3KEUKAQ,3YU MUOMAE,3NZEUM,3MBUE",
     "3NSEUAEN,3MBIT,3YEUQ,3KPARAQ,3KAA,3SEUX,3NDIDA,3TAASHAE,3NJUEQ,3TITA YUE,3SUAET,3NGGUAEN NYAM",
     "3VEUX,3NANSANAQ,3MA KEUAERI,3NTAA,3NGGUON,3LAP,3MBIRIEEN,3MGBASAQ,3NTEUNGBA,3TEUTEUX,3NGGUM",
     "3FUE,3NDEUT,3NSA,3NSHAQ,3BUNG,3VEUAEPEN,3MBERAE,3RU,3NJAEM,3sf,3TITUAEP,3NSUOT NGOM,3NJEEEE",
     "3KET,3NGGU,3MAESI,3MBUAEM,3LU,3KUT,3NJAM,3NGOM,3WUP,3NGGUEET,3NSOM,3NTEN,3KUOP NKAARAE,3NSUN",
     "3NDAM,3MA NSIEE,3YAA,3NDAP,3SHUEQ,3SETFON,3MBI,3MAEMBA,3MBANYI,3KEUSEUX,3MBEUX,3KEUM",
     "3MBAA PICKET,3YUWOQ,3NJEUX,3MIEE,3MUAE,3SHIQ,3KEN LAW,4FATIGUE,3NGAQ,3NAQ,3LIQ,3PIN,3PEN,3TET",
     "2PHASE-D MBUO,3WAP,3NJI,3MFON,3NJIEE,3LIEE,3NJEUT,3NSHEE,3NGGAAMAE,3NYAM,3WUAEN,3NGKUN,3SHEE",
     "3NGKAP,3KEUAETMEUN,3TEUT,3SHEUAE,3NJAP,3SUE,3KET,3YAEMMAE,3KUOM,3SAP,3MFEUT,3NDEUX,3MALEERI",
     "3MEUT,3SEUAEQ,3YEN,3NJEUAEM,3KEUOT MBUAE,3NGKEURI,3TU,3GHAA,3NGKYEE,3FEUFEUAET,3NDEE,3MGBOFUM",
     "3LEUAEP,3NDON,3MONI,3MGBEUN,3PUUT,3MGBIEE,3MFO,3LUM,3NSIEEP,3MBAA,3KWAET,3NYET,3TEUAEN,3SOT",
     "3YUWOQ,3KEUM,3RAEM,3TEEEE,3NGKEUAEQ,3MFEUAE,3NSIEET,3KEUP,3PIP,3PEUTAE,3NYUE,3LET,3NGGAAM",
     "3MFIEE,3NGGWAEN,3YUOM,3PAP,3YUOP,3NDAM,3NTEUM,3SUAE,3KUN,3NGGEUX,3NGKIEE,3TUOT,3MEUN,3KUQ",
     "3NSUM,3TEUN,3MAENJET,3NGGAP,3LEUM,3NGGUOM,3NSHUT,3NJUEQ,3GHEUAE,3KU,3REN nb,3TAE,3TOQ,3NYI",
     "3RII,3LEEEE,3MEEEE,3M,3SUU,3MU,3SHII,3SHEUX,3KYEE,3NU,3SHU,3NTEE,3PEE,3NI,3SHOQ,3PUQ,3MVOP",
     "3LOQ,3REN MUCH,3TI,3NTUU,3MBAA bu,3SAQ,3FAA,2PHASE-E NDAP,3TOON,3MBEUM,3LAP,3VOM,3LOON,3PAA",
     "3SOM,3RAQ,3NSHUOP,3NDUN,3PUAE,3TAM,3NGKA,3KPEUX,3WUO,3SEE,3NGGEUAET,3PAAM,3TOO,3KUOP,3LOM",
     "3NSHIEE,3NGOP,3MAEM,3NGKEUX,3NGOQ,3NSHUE,3RIMGBA,3NJEUX,3PEEM,3SAA,3NGGURAE,3MGBA,3GHEUX",
     "3NGKEUAEM,3NJAEMLI,3MAP,3LOOT,3NGGEEEE,3NDIQ,3TAEN NTEUM,3SET,3PUM,3NDAA SOFTNESS",
     "3NGGUAESHAE NYAM,3YIEE,3GHEUN,3TUAE,3YEUAE,3PO,3TUMAE,3KEUAE,3SUAEN,3TEUAEQ,3VEUAE,3WEUX",
     "3LAAM,3PU,3TAAQ,3GHAAMAE,3NGEUREUT,3SHEUAEQ,3MGBEN,3MBEE,3NZAQ,3NKOM,3GBET,3TUM,3KUET,3YAP",
     "3NYI CLEAVER,3YIT,3MFEUQ,3NDIAQ,3PIEEQ,3YUEQ,3LEUAEM,3FUE,3GBEUX,3NGKUP,3KET,3MAE,3NGKAAMI",
     "3GHET,3FA,3NTUM,3PEUT,3YEUM,3NGGEUAE,3NYI ju,3NZUQ,3POON,3MIEE,3FUET,3NAE,3MUAE,3GHEUAE,3FU I",
     "3MVI,3PUAQ,3NGKUM,3KUT,3PIET,3NTAP,3YEUAET,3NGGUP,3PA PEOPLE,3FU CALL,3FOM,3NJEE,3A,3TOQ,3O",
     "3I,3LAQ,3PA PLURAL,3TAA,3TAQ,3NDAA MY HOUSE,3SHIQ,3YEUX,3NGUAE,3YUAEN,3YOQ SWIMMING,4COVER",
     "3YUQ,3YUN,3KEUX,3PEUX,3NJEE EPOCH,3PUE,3WUE,3FEE,3VEE,3LU,3MI,3REUX,3RAE,3NGUAET,3ke,3SHO",
     "3SHOQ,3FU REMEDY,3NA,3PI,3LOQ,3KO,3MEN,3MA,3MAQ,3TEU,3KI,3MON,3jo,3FAQ,3GHOM,2PHASE-F KA,3U",
     "3KU,3EE,3REE,3TAE,3NYI,3LA,3RII,3RIEE,3MEEEE,3TAA,3NDAA,3NJAEM,3M,3SUU,3SHII,3SI,3SEUX,3KYEE",
     "3KET,3NUAE,3NU,3NJUAE,3YOQ,3SHU,3YA,3NSHA,3PEUX,3NTEE,3WUE,3PEE,3RU,3NI,3REUX,3KEN,3NGKWAEN",
     "3NGGA,3SHO,3PUAE,3FOM,3WA,3LI,3LOQ,3KO,3MBEN,3REN,3MA,3MO,3MBAA,3TET,3KPA,3SAMBA,3VUEQ",
     "16A40:0MRO aa TA,2NGI,2YO,2MIM,2BA,2DA,2A,2zc,2KHAI,2HAO,2DAI,2CHU,2KEAAE,2OL,2MAEM,2NIN,2PA",
     "2OO,2O,2RO,2SHI,2THEA,2EA,2WA,2E,2KO,2LAN,2LA,2HAI,2RI,2TEK,16A60:1cs et,2cr,2cj,2aw,2bt,2by",
     "2fu,2bu,2bs,2dj,16A6E:1jc,1al jc,0TANGSA aa OZ,2OC,2OQ,2OX,2AZ,2AC,2AQ,2AX,2VZ,2VC,2VQ,2VX",
     "2EZ,2EC,2EQ,2EX,2IZ,2IC,2IQ,2IX,2UZ,2UC,2UQ,2UX,2AWZ,2AWC,2AWQ,2AWX,2UIZ,2UIC,2UIQ,2UIX",
     "2ar NG,2fj UEX,2fs UEZ,3AWX,2UEC,2UEZ,2UEQ,2UEX,2UIUZ,2UIUC,2UIUQ,2UIUX,2MZ,2MC,2MQ,2MX,2KA",
     "2lf,2GA,2ke,2SA,2YA,2WA,2PA,2lb,2mz,2BA,2MA,2NA,2HA,2LA,2HTA,2TA,2DA,2RA,2NHA,2kf,2CA,2vu,2oo",
     "2HTTA,2lp,2XA,2FA,2ov,2kz,2ZA,16AC0:1cs et,2cr,2cj,2aw,2bt,2by,2fu,2bu,2bs,2dj",
     "16AD0:0BASSA VAH aa ENNI,3KA,3SE,3FA,3MBE,3YIE,3GAH,3DHII,3KPAH,3JO,3HWAH,3WA,3ZO,3GBU,3DO",
     "3CE,3UWU,3TO,3BA,3VU,3YEIN,3PA,3WADDA,3A,3O,3OO,3U,3EE,3E,3I,16AF0:2dk fv ff,3in ff,3MID ff",
     "3LOW-MID ff,3HIGH-LOW ff,2ig gb,16B00:0PAHAWH HMONG cm KEEB,3KEEV,3KIB,3KIV,3KAUB,3KAUV,3KUB",
     "3KUV,3KEB,3KEV,3KAIB,3KAIV,3KOOB,3KOOV,3KAWB,3KAWV,3KUAB,3KUAV,3KOB,3KOV,3KIAB,3KIAV,3KAB",
     "3KAV,3KWB,3KWV,3KAAB,3KAAV,2fq VAU,3NTSAU,3LAU,3HAU,3NLAU,3RAU,3NKAU,3QHAU,3YAU,3HLAU,3MAU",
     "3CHAU,3NCHAU,3HNAU,3PLHAU,3NTHAU,3NAU,3AU,3XAU,3CAU,2bi CIM TUB,4SO,4KES,4KHAV,4SUAM,4HOM",
     "4TAUM,2ak VOS THOM,4TSHAB CEEB,3CIM CHEEM,3VOS THIAB,4FEEM,3XYEEM NTXIV,4xp,4TOV,4FAIB",
     "3VOS SEEV,3MEEJ SUAB,3VOS NRUA,3IB YAM,3XAUS,3CIM TSOV ROG,16B50:2cs et,3cr,3cj,3aw,3bt,3by",
     "3fu,3bu,3bs,3dj,16B5B:2dr TENS,3HUNDREDS,3jo nv,3sd,3az sd,3jo BILLIONS,3TRILLIONS",
     "16B63:2ak VOS LUB,3XYOO,3HLI,3THIRD-STAGE HLI,3ZWJ THAJ,3HNUB,3NQIG,3XIAB,3NTUJ,3AV",
     "3TXHEEJ CEEV,3MEEJ TSEEB,3TAU,3LOS,3MUS,3CIM HAIS LUS NTOG NTOG,4CUAM TSHOOJ,4TXWV,5CHWV",
     "4PUB DAWB,4NRES TOS,16B7D:2CLAN ak TSHEEJ,4YEEG,4LIS,4LAUJ,4XYOOJ,4KOO,4HAWJ,4MUAS,4THOJ"],
    ["4TSAB,4PHAB,4KHAB,4HAM,4VAJ,4FAJ,4YAJ,4TSWB,4KWM,4VWJ,16E40:0MEDEFAIDRIN ac aa M,3S,3V,3W",
     "3ATIU,3Z,3KP,3P,3T,3G,3F,3I,3K,3A,3J,3E,3B,3C,3U,3YU,3L,3Q,3HP,3NY,3X,3D,3OE,3N,3R,3O,3AI,3Y",
     "1ad aa M,3S,3V,3W,3ATIU,3Z,3KP,3P,3T,3G,3F,3I,3K,3A,3J,3E,3B,3C,3U,3YU,3L,3Q,3HP,3NY,3X,3D",
     "3OE,3N,3R,3O,3AI,3Y,1cs et,2cr,2cj,2aw,2bt,2by,2fu,2bu,2bs,2dj,1dr jo,2pt,2nc,2qa,2qp,2np,2pa",
     "2nw,2oq,2ql,1cs cr fr af,2cj fr af,2aw fr af,1es,1ig gb,1au AIVA,1dy OH,16F00:0MIAO aa PA,2BA",
     "2YI PA,2PLA,2MA,2MHA,2iw MA,2FA,2VA,2VFA,2TA,2DA,2YI nu,3TA,2nu,2or,2NA,2NHA,2YI pp,2iw NA",
     "2pp,2NNHA,2LA,2LYA,2LHA,2LHYA,2TLHA,2DLHA,2TLHYA,2DLHYA,2KA,2GA,2YI KA,2QA,2QGA,2ke,2NGHA",
     "2iw ke,2HA,2XA,2oo,2GHHA,2TSSA,2DZZA,2lb,2NYHA,2wc,2DZHA,2YI wc,3DZHA,2REFORMED wc,2kf,2qz",
     "2ZHA,2ZSHA,2vu,2DZA,2YI vu,2SA,2ZA,2ZSA,2ZZA,2ZZSA,2iw ZZA,2ZZYA,2ZZSYA,2WA,2AH,2HHA,2BRI",
     "2SYI,2DZYI,2TE,2TSE,2RTE,16F4F:1ak fq ey gc,1aa NASALIZATION,1ak ASPIRATION,2REFORMED VOICING",
     "3ASPIRATION,1cm ak A,3AA,3AHH,3AN,3ANG,3O,3OO,3WO,3W,3E,3EN,3ENG,3OEY,3I,3IA,3IAN,3IANG,3IO",
     "3IE,3II,3IU,3ING,3U,3UA,3UAN,3UANG,3UU,3UEI,3UNG,3Y,3YI,3AE,3AEE,3ERR,3pc ERR,3ER,3pc ER,3AI",
     "3EI,3AU,3OU,3N,3NG,3UOG,3YUI,3OG,3OER,3VW,3IG,3EA,3IONG,3UI,16F8F:1ff ai,2qy ai,2aj,2aq",
     "1aa rw,2ua,2yp,2rv,2TONE-6,2TONE-7,2TONE-8,2REFORMED TONE-1,3rw,3yp,3rv,3TONE-6,3TONE-8",
     "16FE0:0TANGUT lm bi,0NUSHU lm bi,0nb CHINESE bv bi,2lm bi,0KHITAN ad iq uh",
     "16FF0:0VIETNAMESE fr READING bi CA,4NHAY,18800:0TANGUT COMPONENT-001,1COMPONENT-002",
     "1COMPONENT-003,1COMPONENT-004,1COMPONENT-005,1COMPONENT-006,1COMPONENT-007,1COMPONENT-008",
     "1COMPONENT-009,1COMPONENT-010,1COMPONENT-011,1COMPONENT-012,1COMPONENT-013,1COMPONENT-014",
     "1COMPONENT-015,1COMPONENT-016,1COMPONENT-017,1COMPONENT-018,1COMPONENT-019,1COMPONENT-020",
     "1COMPONENT-021,1COMPONENT-022,1COMPONENT-023,1COMPONENT-024,1COMPONENT-025,1COMPONENT-026",
     "1COMPONENT-027,1COMPONENT-028,1COMPONENT-029,1COMPONENT-030,1COMPONENT-031,1COMPONENT-032",
     "1COMPONENT-033,1COMPONENT-034,1COMPONENT-035,1COMPONENT-036,1COMPONENT-037,1COMPONENT-038",
     "1COMPONENT-039,1COMPONENT-040,1COMPONENT-041,1COMPONENT-042,1COMPONENT-043,1COMPONENT-044",
     "1COMPONENT-045,1COMPONENT-046,1COMPONENT-047,1COMPONENT-048,1COMPONENT-049,1COMPONENT-050",
     "1COMPONENT-051,1COMPONENT-052,1COMPONENT-053,1COMPONENT-054,1COMPONENT-055,1COMPONENT-056",
     "1COMPONENT-057,1COMPONENT-058,1COMPONENT-059,1COMPONENT-060,1COMPONENT-061,1COMPONENT-062",
     "1COMPONENT-063,1COMPONENT-064,1COMPONENT-065,1COMPONENT-066,1COMPONENT-067,1COMPONENT-068",
     "1COMPONENT-069,1COMPONENT-070,1COMPONENT-071,1COMPONENT-072,1COMPONENT-073,1COMPONENT-074",
     "1COMPONENT-075,1COMPONENT-076,1COMPONENT-077,1COMPONENT-078,1COMPONENT-079,1COMPONENT-080",
     "1COMPONENT-081,1COMPONENT-082,1COMPONENT-083,1COMPONENT-084,1COMPONENT-085,1COMPONENT-086",
     "1COMPONENT-087,1COMPONENT-088,1COMPONENT-089,1COMPONENT-090,1COMPONENT-091,1COMPONENT-092",
     "1COMPONENT-093,1COMPONENT-094,1COMPONENT-095,1COMPONENT-096,1COMPONENT-097,1COMPONENT-098",
     "1COMPONENT-099,1COMPONENT-100,1COMPONENT-101,1COMPONENT-102,1COMPONENT-103,1COMPONENT-104",
     "1COMPONENT-105,1COMPONENT-106,1COMPONENT-107,1COMPONENT-108,1COMPONENT-109,1COMPONENT-110",
     "1COMPONENT-111,1COMPONENT-112,1COMPONENT-113,1COMPONENT-114,1COMPONENT-115,1COMPONENT-116",
     "1COMPONENT-117,1COMPONENT-118,1COMPONENT-119,1COMPONENT-120,1COMPONENT-121,1COMPONENT-122",
     "1COMPONENT-123,1COMPONENT-124,1COMPONENT-125,1COMPONENT-126,1COMPONENT-127,1COMPONENT-128",
     "1COMPONENT-129,1COMPONENT-130,1COMPONENT-131,1COMPONENT-132,1COMPONENT-133,1COMPONENT-134",
     "1COMPONENT-135,1COMPONENT-136,1COMPONENT-137,1COMPONENT-138,1COMPONENT-139,1COMPONENT-140",
     "1COMPONENT-141,1COMPONENT-142,1COMPONENT-143,1COMPONENT-144,1COMPONENT-145,1COMPONENT-146",
     "1COMPONENT-147,1COMPONENT-148,1COMPONENT-149,1COMPONENT-150,1COMPONENT-151,1COMPONENT-152",
     "1COMPONENT-153,1COMPONENT-154,1COMPONENT-155,1COMPONENT-156,1COMPONENT-157,1COMPONENT-158",
     "1COMPONENT-159,1COMPONENT-160,1COMPONENT-161,1COMPONENT-162,1COMPONENT-163,1COMPONENT-164",
     "1COMPONENT-165,1COMPONENT-166,1COMPONENT-167,1COMPONENT-168,1COMPONENT-169,1COMPONENT-170",
     "1COMPONENT-171,1COMPONENT-172,1COMPONENT-173,1COMPONENT-174,1COMPONENT-175,1COMPONENT-176",
     "1COMPONENT-177,1COMPONENT-178,1COMPONENT-179,1COMPONENT-180,1COMPONENT-181,1COMPONENT-182",
     "1COMPONENT-183,1COMPONENT-184,1COMPONENT-185,1COMPONENT-186,1COMPONENT-187,1COMPONENT-188",
     "1COMPONENT-189,1COMPONENT-190,1COMPONENT-191,1COMPONENT-192,1COMPONENT-193,1COMPONENT-194",
     "1COMPONENT-195,1COMPONENT-196,1COMPONENT-197,1COMPONENT-198,1COMPONENT-199,1COMPONENT-200",
     "1COMPONENT-201,1COMPONENT-202,1COMPONENT-203,1COMPONENT-204,1COMPONENT-205,1COMPONENT-206",
     "1COMPONENT-207,1COMPONENT-208,1COMPONENT-209,1COMPONENT-210,1COMPONENT-211,1COMPONENT-212",
     "1COMPONENT-213,1COMPONENT-214,1COMPONENT-215,1COMPONENT-216,1COMPONENT-217,1COMPONENT-218",
     "1COMPONENT-219,1COMPONENT-220,1COMPONENT-221,1COMPONENT-222,1COMPONENT-223,1COMPONENT-224",
     "1COMPONENT-225,1COMPONENT-226,1COMPONENT-227,1COMPONENT-228,1COMPONENT-229,1COMPONENT-230",
     "1COMPONENT-231,1COMPONENT-232,1COMPONENT-233,1COMPONENT-234,1COMPONENT-235,1COMPONENT-236",
     "1COMPONENT-237,1COMPONENT-238,1COMPONENT-239,1COMPONENT-240,1COMPONENT-241,1COMPONENT-242",
     "1COMPONENT-243,1COMPONENT-244,1COMPONENT-245,1COMPONENT-246,1COMPONENT-247,1COMPONENT-248",
     "1COMPONENT-249,1COMPONENT-250,1COMPONENT-251,1COMPONENT-252,1COMPONENT-253,1COMPONENT-254",
     "1COMPONENT-255,1COMPONENT-256,1COMPONENT-257,1COMPONENT-258,1COMPONENT-259,1COMPONENT-260",
     "1COMPONENT-261,1COMPONENT-262,1COMPONENT-263,1COMPONENT-264,1COMPONENT-265,1COMPONENT-266",
     "1COMPONENT-267,1COMPONENT-268,1COMPONENT-269,1COMPONENT-270,1COMPONENT-271,1COMPONENT-272",
     "1COMPONENT-273,1COMPONENT-274,1COMPONENT-275,1COMPONENT-276,1COMPONENT-277,1COMPONENT-278",
     "1COMPONENT-279,1COMPONENT-280,1COMPONENT-281,1COMPONENT-282,1COMPONENT-283,1COMPONENT-284",
     "1COMPONENT-285,1COMPONENT-286,1COMPONENT-287,1COMPONENT-288,1COMPONENT-289,1COMPONENT-290"],
    ["1COMPONENT-291,1COMPONENT-292,1COMPONENT-293,1COMPONENT-294,1COMPONENT-295,1COMPONENT-296",
     "1COMPONENT-297,1COMPONENT-298,1COMPONENT-299,1COMPONENT-300,1COMPONENT-301,1COMPONENT-302",
     "1COMPONENT-303,1COMPONENT-304,1COMPONENT-305,1COMPONENT-306,1COMPONENT-307,1COMPONENT-308",
     "1COMPONENT-309,1COMPONENT-310,1COMPONENT-311,1COMPONENT-312,1COMPONENT-313,1COMPONENT-314",
     "1COMPONENT-315,1COMPONENT-316,1COMPONENT-317,1COMPONENT-318,1COMPONENT-319,1COMPONENT-320",
     "1COMPONENT-321,1COMPONENT-322,1COMPONENT-323,1COMPONENT-324,1COMPONENT-325,1COMPONENT-326",
     "1COMPONENT-327,1COMPONENT-328,1COMPONENT-329,1COMPONENT-330,1COMPONENT-331,1COMPONENT-332",
     "1COMPONENT-333,1COMPONENT-334,1COMPONENT-335,1COMPONENT-336,1COMPONENT-337,1COMPONENT-338",
     "1COMPONENT-339,1COMPONENT-340,1COMPONENT-341,1COMPONENT-342,1COMPONENT-343,1COMPONENT-344",
     "1COMPONENT-345,1COMPONENT-346,1COMPONENT-347,1COMPONENT-348,1COMPONENT-349,1COMPONENT-350",
     "1COMPONENT-351,1COMPONENT-352,1COMPONENT-353,1COMPONENT-354,1COMPONENT-355,1COMPONENT-356",
     "1COMPONENT-357,1COMPONENT-358,1COMPONENT-359,1COMPONENT-360,1COMPONENT-361,1COMPONENT-362",
     "1COMPONENT-363,1COMPONENT-364,1COMPONENT-365,1COMPONENT-366,1COMPONENT-367,1COMPONENT-368",
     "1COMPONENT-369,1COMPONENT-370,1COMPONENT-371,1COMPONENT-372,1COMPONENT-373,1COMPONENT-374",
     "1COMPONENT-375,1COMPONENT-376,1COMPONENT-377,1COMPONENT-378,1COMPONENT-379,1COMPONENT-380",
     "1COMPONENT-381,1COMPONENT-382,1COMPONENT-383,1COMPONENT-384,1COMPONENT-385,1COMPONENT-386",
     "1COMPONENT-387,1COMPONENT-388,1COMPONENT-389,1COMPONENT-390,1COMPONENT-391,1COMPONENT-392",
     "1COMPONENT-393,1COMPONENT-394,1COMPONENT-395,1COMPONENT-396,1COMPONENT-397,1COMPONENT-398",
     "1COMPONENT-399,1COMPONENT-400,1COMPONENT-401,1COMPONENT-402,1COMPONENT-403,1COMPONENT-404",
     "1COMPONENT-405,1COMPONENT-406,1COMPONENT-407,1COMPONENT-408,1COMPONENT-409,1COMPONENT-410",
     "1COMPONENT-411,1COMPONENT-412,1COMPONENT-413,1COMPONENT-414,1COMPONENT-415,1COMPONENT-416",
     "1COMPONENT-417,1COMPONENT-418,1COMPONENT-419,1COMPONENT-420,1COMPONENT-421,1COMPONENT-422",
     "1COMPONENT-423,1COMPONENT-424,1COMPONENT-425,1COMPONENT-426,1COMPONENT-427,1COMPONENT-428",
     "1COMPONENT-429,1COMPONENT-430,1COMPONENT-431,1COMPONENT-432,1COMPONENT-433,1COMPONENT-434",
     "1COMPONENT-435,1COMPONENT-436,1COMPONENT-437,1COMPONENT-438,1COMPONENT-439,1COMPONENT-440",
     "1COMPONENT-441,1COMPONENT-442,1COMPONENT-443,1COMPONENT-444,1COMPONENT-445,1COMPONENT-446",
     "1COMPONENT-447,1COMPONENT-448,1COMPONENT-449,1COMPONENT-450,1COMPONENT-451,1COMPONENT-452",
     "1COMPONENT-453,1COMPONENT-454,1COMPONENT-455,1COMPONENT-456,1COMPONENT-457,1COMPONENT-458",
     "1COMPONENT-459,1COMPONENT-460,1COMPONENT-461,1COMPONENT-462,1COMPONENT-463,1COMPONENT-464",
     "1COMPONENT-465,1COMPONENT-466,1COMPONENT-467,1COMPONENT-468,1COMPONENT-469,1COMPONENT-470",
     "1COMPONENT-471,1COMPONENT-472,1COMPONENT-473,1COMPONENT-474,1COMPONENT-475,1COMPONENT-476",
     "1COMPONENT-477,1COMPONENT-478,1COMPONENT-479,1COMPONENT-480,1COMPONENT-481,1COMPONENT-482",
     "1COMPONENT-483,1COMPONENT-484,1COMPONENT-485,1COMPONENT-486,1COMPONENT-487,1COMPONENT-488",
     "1COMPONENT-489,1COMPONENT-490,1COMPONENT-491,1COMPONENT-492,1COMPONENT-493,1COMPONENT-494",
     "1COMPONENT-495,1COMPONENT-496,1COMPONENT-497,1COMPONENT-498,1COMPONENT-499,1COMPONENT-500",
     "1COMPONENT-501,1COMPONENT-502,1COMPONENT-503,1COMPONENT-504,1COMPONENT-505,1COMPONENT-506",
     "1COMPONENT-507,1COMPONENT-508,1COMPONENT-509,1COMPONENT-510,1COMPONENT-511,1COMPONENT-512",
     "1COMPONENT-513,1COMPONENT-514,1COMPONENT-515,1COMPONENT-516,1COMPONENT-517,1COMPONENT-518",
     "1COMPONENT-519,1COMPONENT-520,1COMPONENT-521,1COMPONENT-522,1COMPONENT-523,1COMPONENT-524",
     "1COMPONENT-525,1COMPONENT-526,1COMPONENT-527,1COMPONENT-528,1COMPONENT-529,1COMPONENT-530",
     "1COMPONENT-531,1COMPONENT-532,1COMPONENT-533,1COMPONENT-534,1COMPONENT-535,1COMPONENT-536",
     "1COMPONENT-537,1COMPONENT-538,1COMPONENT-539,1COMPONENT-540,1COMPONENT-541,1COMPONENT-542",
     "1COMPONENT-543,1COMPONENT-544,1COMPONENT-545,1COMPONENT-546,1COMPONENT-547,1COMPONENT-548",
     "1COMPONENT-549,1COMPONENT-550,1COMPONENT-551,1COMPONENT-552,1COMPONENT-553,1COMPONENT-554",
     "1COMPONENT-555,1COMPONENT-556,1COMPONENT-557,1COMPONENT-558,1COMPONENT-559,1COMPONENT-560",
     "1COMPONENT-561,1COMPONENT-562,1COMPONENT-563,1COMPONENT-564,1COMPONENT-565,1COMPONENT-566",
     "1COMPONENT-567,1COMPONENT-568,1COMPONENT-569,1COMPONENT-570,1COMPONENT-571,1COMPONENT-572",
     "1COMPONENT-573,1COMPONENT-574,1COMPONENT-575,1COMPONENT-576,1COMPONENT-577,1COMPONENT-578",
     "1COMPONENT-579,1COMPONENT-580,1COMPONENT-581,1COMPONENT-582,1COMPONENT-583,1COMPONENT-584",
     "1COMPONENT-585,1COMPONENT-586,1COMPONENT-587,1COMPONENT-588,1COMPONENT-589,1COMPONENT-590",
     "1COMPONENT-591,1COMPONENT-592,1COMPONENT-593,1COMPONENT-594,1COMPONENT-595,1COMPONENT-596",
     "1COMPONENT-597,1COMPONENT-598,1COMPONENT-599,1COMPONENT-600,1COMPONENT-601,1COMPONENT-602",
     "1COMPONENT-603,1COMPONENT-604,1COMPONENT-605,1COMPONENT-606,1COMPONENT-607,1COMPONENT-608",
     "1COMPONENT-609,1COMPONENT-610,1COMPONENT-611,1COMPONENT-612,1COMPONENT-613,1COMPONENT-614",
     "1COMPONENT-615,1COMPONENT-616,1COMPONENT-617,1COMPONENT-618,1COMPONENT-619,1COMPONENT-620",
     "1COMPONENT-621,1COMPONENT-622,1COMPONENT-623,1COMPONENT-624,1COMPONENT-625,1COMPONENT-626",
     "1COMPONENT-627,1COMPONENT-628,1COMPONENT-629,1COMPONENT-630,1COMPONENT-631,1COMPONENT-632",
     "1COMPONENT-633,1COMPONENT-634,1COMPONENT-635,1COMPONENT-636,1COMPONENT-637,1COMPONENT-638",
     "1COMPONENT-639,1COMPONENT-640,1COMPONENT-641,1COMPONENT-642,1COMPONENT-643,1COMPONENT-644",
     "1COMPONENT-645,1COMPONENT-646,1COMPONENT-647,1COMPONENT-648,1COMPONENT-649,1COMPONENT-650",
     "1COMPONENT-651,1COMPONENT-652,1COMPONENT-653,1COMPONENT-654,1COMPONENT-655,1COMPONENT-656",
     "1COMPONENT-657,1COMPONENT-658,1COMPONENT-659,1COMPONENT-660,1COMPONENT-661,1COMPONENT-662",
     "1COMPONENT-663,1COMPONENT-664,1COMPONENT-665,1COMPONENT-666,1COMPONENT-667,1COMPONENT-668",
     "1COMPONENT-669,1COMPONENT-670,1COMPONENT-671,1COMPONENT-672,1COMPONENT-673,1COMPONENT-674"],
    ["1COMPONENT-675,1COMPONENT-676,1COMPONENT-677,1COMPONENT-678,1COMPONENT-679,1COMPONENT-680",
     "1COMPONENT-681,1COMPONENT-682,1COMPONENT-683,1COMPONENT-684,1COMPONENT-685,1COMPONENT-686",
     "1COMPONENT-687,1COMPONENT-688,1COMPONENT-689,1COMPONENT-690,1COMPONENT-691,1COMPONENT-692",
     "1COMPONENT-693,1COMPONENT-694,1COMPONENT-695,1COMPONENT-696,1COMPONENT-697,1COMPONENT-698",
     "1COMPONENT-699,1COMPONENT-700,1COMPONENT-701,1COMPONENT-702,1COMPONENT-703,1COMPONENT-704",
     "1COMPONENT-705,1COMPONENT-706,1COMPONENT-707,1COMPONENT-708,1COMPONENT-709,1COMPONENT-710",
     "1COMPONENT-711,1COMPONENT-712,1COMPONENT-713,1COMPONENT-714,1COMPONENT-715,1COMPONENT-716",
     "1COMPONENT-717,1COMPONENT-718,1COMPONENT-719,1COMPONENT-720,1COMPONENT-721,1COMPONENT-722",
     "1COMPONENT-723,1COMPONENT-724,1COMPONENT-725,1COMPONENT-726,1COMPONENT-727,1COMPONENT-728",
     "1COMPONENT-729,1COMPONENT-730,1COMPONENT-731,1COMPONENT-732,1COMPONENT-733,1COMPONENT-734",
     "1COMPONENT-735,1COMPONENT-736,1COMPONENT-737,1COMPONENT-738,1COMPONENT-739,1COMPONENT-740",
     "1COMPONENT-741,1COMPONENT-742,1COMPONENT-743,1COMPONENT-744,1COMPONENT-745,1COMPONENT-746",
     "1COMPONENT-747,1COMPONENT-748,1COMPONENT-749,1COMPONENT-750,1COMPONENT-751,1COMPONENT-752",
     "1COMPONENT-753,1COMPONENT-754,1COMPONENT-755,1COMPONENT-756,1COMPONENT-757,1COMPONENT-758",
     "1COMPONENT-759,1COMPONENT-760,1COMPONENT-761,1COMPONENT-762,1COMPONENT-763,1COMPONENT-764",
     "1COMPONENT-765,1COMPONENT-766,1COMPONENT-767,1COMPONENT-768,1AFF0:0lz aa MINNAN rw,3ua,3yp",
     "3rv,1AFF5:3TONE-7,3TONE-8,3NASALIZED TONE-1,4rw,4ua,4yp,4rv,1AFFD:4TONE-7,4TONE-8,1B000:2iw E",
     "0vk aa iw YE,0HENTAIGANA aa A-1,2A-2,2A-3,2A-WO,2I-1,2I-2,2I-3,2I-4,2U-1,2U-2,2U-3,2U-4,2U-5",
     "2E-2,2E-3,2E-4,2E-5,2E-6,2O-1,2O-2,2O-3,2KA-1,2KA-2,2KA-3,2KA-4,2KA-5,2KA-6,2KA-7,2KA-8,2KA-9",
     "2KA-10,2KA-11,2KA-KE,2KI-1,2KI-2,2KI-3,2KI-4,2KI-5,2KI-6,2KI-7,2KI-8,2KU-1,2KU-2,2KU-3,2KU-4",
     "2KU-5,2KU-6,2KU-7,2KE-1,2KE-2,2KE-3,2KE-4,2KE-5,2KE-6,2KO-1,2KO-2,2KO-3,2KO-KI,2SA-1,2SA-2",
     "2SA-3,2SA-4,2SA-5,2SA-6,2SA-7,2SA-8,2SI-1,2SI-2,2SI-3,2SI-4,2SI-5,2SI-6,2SU-1,2SU-2,2SU-3",
     "2SU-4,2SU-5,2SU-6,2SU-7,2SU-8,2SE-1,2SE-2,2SE-3,2SE-4,2SE-5,2SO-1,2SO-2,2SO-3,2SO-4,2SO-5",
     "2SO-6,2SO-7,2TA-1,2TA-2,2TA-3,2TA-4,2TI-1,2TI-2,2TI-3,2TI-4,2TI-5,2TI-6,2TI-7,2TU-1,2TU-2",
     "2TU-3,2TU-4,2TU-TO,2TE-1,2TE-2,2TE-3,2TE-4,2TE-5,2TE-6,2TE-7,2TE-8,2TE-9,2TO-1,2TO-2,2TO-3",
     "2TO-4,2TO-5,2TO-6,2TO-RA,2NA-1,2NA-2,2NA-3,2NA-4,2NA-5,2NA-6,2NA-7,2NA-8,2NA-9,2NI-1,2NI-2",
     "2NI-3,2NI-4,2NI-5,2NI-6,2NI-7,2NI-TE,2NU-1,2NU-2,2NU-3,2NE-1,2NE-2,2NE-3,2NE-4,2NE-5,2NE-6",
     "2NE-KO,2NO-1,2NO-2,2NO-3,2NO-4,2NO-5,2HA-1,2HA-2,2HA-3,2HA-4,2HA-5,2HA-6,2HA-7,2HA-8,2HA-9",
     "2HA-10,2HA-11,2HI-1,2HI-2,2HI-3,2HI-4,2HI-5,2HI-6,2HI-7,2HU-1,2HU-2,2HU-3,2HE-1,2HE-2,2HE-3",
     "2HE-4,2HE-5,2HE-6,2HE-7,2HO-1,2HO-2,2HO-3,2HO-4,2HO-5,2HO-6,2HO-7,2HO-8,2MA-1,2MA-2,2MA-3",
     "2MA-4,2MA-5,2MA-6,2MA-7,2MI-1,2MI-2,2MI-3,2MI-4,2MI-5,2MI-6,2MI-7,2MU-1,2MU-2,2MU-3,2MU-4",
     "2ME-1,2ME-2,2ME-MA,2MO-1,2MO-2,2MO-3,2MO-4,2MO-5,2MO-6,2YA-1,2YA-2,2YA-3,2YA-4,2YA-5,2YA-YO",
     "2YU-1,2YU-2,2YU-3,2YU-4,2YO-1,2YO-2,2YO-3,2YO-4,2YO-5,2YO-6,2RA-1,2RA-2,2RA-3,2RA-4,2RI-1",
     "2RI-2,2RI-3,2RI-4,2RI-5,2RI-6,2RI-7,2RU-1,2RU-2,2RU-3,2RU-4,2RU-5,2RU-6,2RE-1,2RE-2,2RE-3",
     "2RE-4,2RO-1,2RO-2,2RO-3,2RO-4,2RO-5,2RO-6,2WA-1,2WA-2,2WA-3,2WA-4,2WA-5,2WI-1,2WI-2,2WI-3",
     "2WI-4,2WI-5,2WE-1,2WE-2,2WE-3,2WE-4,2WO-1,2WO-2,2WO-3,2WO-4,2WO-5,2WO-6,2WO-7,2N-MU-MO-1",
     "2N-MU-MO-2,0vk aa iw WU,0lz aa iw YI,3YE,3WU,1B150:0vk aa ad WI,3WE,3WO,1B164:0lz aa ad WI",
     "3WE,3WO,3N,1BC00:0DUPLOYAN aa H,2X,2P,2T,2F,2K,2L,2B,2D,2V,2G,2R,2P N,2D S,2F N,2K M,2R S,2TH",
     "2SLOAN DH,2DH,2KK,2SLOAN J,2HL,2LH,2RH,2M,2N,2J,2S,2M N,2N M,2J M,2S J,2M ab cx,2N ab cx",
     "2J ab cx,4du km bh aj,2S ab cx,5aq,2M S,2N S,2J S,2S S,2M N S,2N M S,2J M S,2S J S,2J S ab cx",
     "3N,4S,2S T,4R,3P,4R,2T S,3R S,2W,2WH,2W R,2S N,3M,2K R S,2G R S,2S K,4R,2A,2SLOAN OW,2OA,2O",
     "2AOU,2I,2E,2IE,2fs I,2UI,2EE,2SLOAN EH,2ROMANIAN I,2SLOAN EE,2fj I,2YE,2U,2EU,2XW,2U N,2fj U",
     "2ROMANIAN U,2UH,2SLOAN U,2OOH,2OW,2OU,2WA,2WO,2WI,2WEI,2WOW,2NASAL U,3O,3I,3A,2PERNIN AN,3AM",
     "2SLOAN EN,3AN,3ON,2cy M,1BC70:1AFFIX av as wf,2MID as wf,2ai as wf,2in an wf,2MID an wf",
     "2fv an wf,2vs wf,3pq wf,3TANGENT,3hp,3E bv,3I bv,3TANGENT bv,1BC80:2fv db,3TIGHT db,3ef",
     "3fj ef,3cx,3bo,3fz,3pz,3an,1BC90:2in db,3TIGHT db,3ef,3fj ef,3cx,3bo,3fz,3pz,3an,3ae",
     "1BC9C:1ak O ab gs,1THICK aa SELECTOR,1al bi,1cc CHINOOK ig gb,0SHORTHAND FORMAT aa OVERLAP",
     "2CONTINUING OVERLAP,2de STEP,2UP STEP,1CF00:0ZNAMENNY dk bi GORAZDO NIZKO S mu ON av",
     "3NIZKO S mu ON av,3TSATA ON av,3GORAZDO NIZKO ON av,3NIZKO ON av,3SREDNE ON av,3MALO mt ON av",
     "3mt ON av,3VYSOKO ON av,3MALO mt S vf ON av,3mt S vf ON av,3VYSOKO S vf ON av",
     "3GORAZDO NIZKO S mu ON ai,3NIZKO S mu ON ai,3TSATA ON ai,3GORAZDO NIZKO ON ai,3NIZKO ON ai",
     "3SREDNE ON ai,3MALO mt ON ai,3mt ON ai,3VYSOKO ON ai,3MALO mt S vf ON ai,3mt S vf ON ai",
     "3VYSOKO S vf ON ai,3TSATA S mu,3MALO mt S mu,3STRANNO MALO mt,3mt S mu,4STRANNO,3VYSOKO S mu",
     "3MALO mt STRANNO,3GORAZDO VYSOKO,3ZELO,3ON,3RAVNO,3TIKHAYA,3BORZAYA,3UDARKA,3PODVERTKA,3LOMKA",
     "3KUPNAYA,3KACHKA,3ZEVOK,3SKOBA,3RAZSEKA,3KRYZH ON av,1CF30:2TONAL RANGE bi MRACHNO,5SVETLO",
     "5TRESVETLO,2bi ZADERZHKA,3DEMESTVENNY ZADERZHKA,3OTSECHKA,3PODCHASHIE,4ab an at,3CHASHKA",
     "4POLNAYA,3OBLACHKO,3SOROCHYA NOZHKA,3TOCHKA,3DVOETOCHIE,2ATTACHING an OMET,2bi rf OMET,3KRYZH",
     "2ct TONAL RANGE ny,1PRIZNAK ey LEVEL-2,3LEVEL-3,3DIRECTION FLIP,3KRYZH,3ROG",
     "1CF50:1NEUME KRYUK,3TIKHY,2PARAKLIT,2DVA V CHELNU,2KLYUCH,2ZANOZHEK,2STOPITSA,3S OCHKOM",
     "2PEREVODKA,3om,2STOPITSA ab SOROCHYA NOZHKA,2CHELYUSTKA,2PALKA,2ns,2GOLUBCHIK BORZY,3TIKHY",
     "3MRACHNY,3SVETLY,3TRESVETLY,2VRAKHIYA PROSTAYA,3MRACHNAYA,3qb,3wt,3na PROSTAYA,4MRACHNAYA,4qb",
     "4wt,2al ns,2bq CHELYUSTKA,2DERBITSA,2KHAMILO,2CHASHKA,2PODCHASHIE,2SKAMEYTSA MRACHNAYA,3qb",
     "3wt,3TIKHAYA,2DEMESTVENNY KLYUCH,2SKAMEYTSA na qb,3KLYUCHENEPOSTOYANNAYA,3na TIKHAYA",
     "3DVOECHELNAYA PROSTAYA,4qb,4om,4na,2SLOZHITIE,3S um,3ZAKRYTOE,3S mu,2KRYZH,2ROG,2FITA,2KOBYLA"],
    ["2ZMEYTSA,2STATYA,3S um,4mu,4um I mu,4mu I um,3ZAKRYTAYA,4S um,3S ROGOM,4DVUMYA ZAPYATYMI",
     "4um I PODCHASHIEM,2POLKULIZMY,2STATYA om,2STRELA PROSTAYA,3MRACHNOTIKHAYA,3KRYZHEVAYA",
     "3POLUPOVODNAYA,3POVODNAYA,3om,3KLYUCHEPOVODNAYA,3KLYUCHENEPOSTOYANNAYA,3TIKHAYA PUTNAYA",
     "3DVOECHELNAYA,3DVOECHELNOKRYZHEVAYA,3DVOECHELNOPOVODNAYA,3DVOECHELNAYA na",
     "3DVOECHELNOPOVODNAYA na,3GROMNAYA ab cw ns,3sn ab cw ns,3GROMNAYA,3sn,4ab al ns",
     "3GROMOKRYZHEVAYA,4POVODNAYA,2MECHIK,3POVODNY,3KLYUCHEVOY,3KLYUCHEPOVODNY,3KLYUCHENEPOSTOYANNY",
     "2STRELA TRYASOGLASNAYA,3TRYASOPOVODNAYA,3TRYASOSTRELNAYA,2OSOKA,3qb,3wt,3KRYUKOVAYA qb,3na qb",
     "4om,2STRELA KRYUKOVAYA,4POVODNAYA,4GROMNAYA ab cw ns,4sn ab cw ns,4GROMNAYA,4sn,5ab al ns",
     "4GROMOKRYZHEVAYA,5POVODNAYA,4TRYASKA,2KUFISMA,2OBLAKO,2DUDA,2NEMKA,2PAUK",
     "1D000:0BYZANTINE lu au dx,3DASEIA,3bz,3OXEIA xi,4DIPLI,3VAREIA xi,4DIPLI,3KATHISTI,3SYRMATIKI",
     "3PARAKLITIKI,3YPOKRISIS,4DIPLI,3KREMASTI,3APESO xi,3EXO xi,3TELEIA,3wm,3APOSTROFOS,4DIPLI",
     "3SYNEVMA,3THITA,3OLIGON hu,3GORGON hu,3PSILON,3CHAMILON,3VATHY,3ISON hu,3KENTIMA hu,3wm hu",
     "3SAXIMATA,3PARICHON,3STAVROS APODEXIA,3OXEIAI hu,3VAREIAI hu,3APODERMA hu,3APOTHEMA,3KLASMA",
     "3REVMA,3PIASMA hu,3TINAGMA,3ANATRICHISMA,3SEISMA,3SYNAGMA hu,4META STAVROU,3OYRANISMA hu",
     "3THEMA,3LEMOI,3DYO,3TRIA,3TESSERA,3KRATIMATA,3APESO EXO xr,3FTHORA hu,3IMIFTHORA,3TROMIKON hu",
     "3KATAVA TROMIKON,3PELASTON,3PSIFISTON,3KONTEVMA,3CHOREVMA hu,3RAPISMA,3PARAKALESMA hu",
     "3PARAKLITIKI hu,3ICHADIN,3NANA,3PETASMA,3KONTEVMA ALLO,3TROMIKON ALLO,3STRAGGISMATA",
     "3GRONTHISMATA,3ISON xr,3OLIGON xr,3OXEIA xr,3PETASTI,3KOUFISMA,3PETASTOKOUFISMA",
     "3KRATIMOKOUFISMA,3PELASTON xr,3wm xr ANO,3KENTIMA xr ANO,3YPSILI,3APOSTROFOS xr",
     "3APOSTROFOI SYNDESMOS xr,3YPORROI,3KRATIMOYPORROON,3ELAFRON,3CHAMILI,3MIKRON ISON,3VAREIA xr",
     "3PIASMA xr,3PSIFISTON xr,3OMALON,3ANTIKENOMA,3LYGISMA,3PARAKLITIKI xr,3PARAKALESMA xr",
     "3ETERON PARAKALESMA,3KYLISMA,3ANTIKENOKYLISMA,3TROMIKON xr,3EKSTREPTON,3SYNAGMA xr,3SYRMA",
     "3CHOREVMA xr,3EPEGERMA,3SEISMA xr,3XIRON KLASMA,3TROMIKOPSIFISTON,3PSIFISTOLYGISMA",
     "3TROMIKOLYGISMA,3TROMIKOPARAKALESMA,3PSIFISTOPARAKALESMA,3TROMIKOSYNAGMA,3PSIFISTOSYNAGMA",
     "3GORGOSYNTHETON,3ARGOSYNTHETON,3ETERON ARGOSYNTHETON,3OYRANISMA xr,3THEMATISMOS ESO,4EXO",
     "3THEMA APLOUN,3THES KAI APOTHES,3KATAVASMA,3ENDOFONON,3YFEN KATO,4ANO,3STAVROS,3KLASMA ANO",
     "3DIPLI hu,3KRATIMA hu,4ALLO,4xr,3APODERMA xr,3APLI,3DIPLI,3TRIPLI,3TETRAPLI,3KORONIS",
     "3LEIMMA ENOS CHRONOU,4DYO CHRONON,4TRION CHRONON,4TESSARON CHRONON,4IMISEOS CHRONOU",
     "3GORGON xr ANO,4PARESTIGMENON ARISTERA,5DEXIA,3DIGORGON,4PARESTIGMENON ARISTERA KATO,6ANO",
     "5DEXIA,3TRIGORGON,3ARGON,3IMIDIARGON,3DIARGON,3AGOGI POLI ARGI,4ARGOTERI,4ARGI,4METRIA,4MESI",
     "4GORGI,4GORGOTERI,4POLI GORGI,3MARTYRIA PROTOS sj,4ALLI PROTOS sj,4DEYTEROS sj",
     "4ALLI DEYTEROS sj,4TRITOS sj,4TRIFONIAS,4TETARTOS sj,5LEGETOS sj,4LEGETOS sj,4PLAGIOS sj",
     "3ISAKIA TELOUS ICHIMATOS,3APOSTROFOI TELOUS ICHIMATOS,3FANEROSIS TETRAFONIAS,4MONOFONIAS",
     "4DIFONIAS,3MARTYRIA VARYS sj,4PROTOVARYS sj,4PLAGIOS TETARTOS sj,3GORTHMIKON N APLOUN",
     "5DIPLOUN,3ENARXIS KAI FTHORA VOU,3IMIFONON,3IMIFTHORON,3FTHORA hu DEYTEROU ICHOU",
     "4DIATONIKI PA,5NANA,4NAOS sj,4DIATONIKI DI,4SKLIRON DIATONON DI,4DIATONIKI KE,5ZO,5NI KATO",
     "6ANO,4MALAKON CHROMA DIFONIAS,6MONOFONIAS,3FHTORA SKLIRON CHROMA VASIS",
     "3FTHORA SKLIRON CHROMA SYNAFI,4NENANO,3CHROA ZYGOS,4KLITON,4SPATHI",
     "3FTHORA I YFESIS TETARTIMORION,4ENARMONIOS ANTIFONIA,3YFESIS TRITIMORION,3DIESIS TRITIMORION",
     "4TETARTIMORION,4APLI DYO qs,4MONOGRAMMOS TESSERA qs,4DIGRAMMOS EX qs,4TRIGRAMMOS OKTO qs",
     "3YFESIS APLI DYO qs,4MONOGRAMMOS TESSERA qs,4DIGRAMMOS EX qs,4TRIGRAMMOS OKTO qs",
     "3GENIKI DIESIS,4YFESIS,3DIASTOLI APLI MIKRI,5MEGALI,4DIPLI,4THESEOS,3SIMANSIS THESEOS",
     "5DISIMOU,5TRISIMOU,5TETRASIMOU,4ARSEOS,5DISIMOU,5TRISIMOU,5TETRASIMOU,3DIGRAMMA GG",
     "3DIFTOGGOS OU,3STIGMA,3ARKTIKO PA,4VOU,4GA,4DI,4KE,4ZO,4NI,3wm xr MESO,3KENTIMA xr MESO",
     "3wm xr KATO,3KENTIMA xr KATO,3KLASMA KATO,3GORGON xr KATO,1D100:0lu au cw yh,2al yh,2ar yh",
     "2hz ar yh,2os yh,2fs yh,2av REPEAT ak,2ai REPEAT ak,2REPEAT du,2DAL SEGNO,2DA CAPO,2SEGNO",
     "2CODA,2REPEATED FIGURE-1,3FIGURE-2,3FIGURE-3,2FERMATA,3aq,2BREATH bi,2CAESURA,2BRACE,2bd",
     "2ONE-LINE STAFF,2TWO-LINE STAFF,2THREE-LINE STAFF,2FOUR-LINE STAFF,2FIVE-LINE STAFF",
     "2SIX-LINE STAFF,2SIX-STRING FRETBOARD,2FOUR-STRING FRETBOARD,2G CLEF,4OTTAVA ALTA,5BASSA",
     "2C CLEF,2F CLEF,4OTTAVA ALTA,5BASSA,2DRUM CLEF-1,3CLEF-2,1D129:2kl xy tk,2al SHARP,3FLAT",
     "2FLAT UP,3de,2NATURAL UP,3de,2SHARP UP,3de,2fm ff SHARP,4FLAT,2COMMON TIME,2CUT TIME",
     "2OTTAVA ALTA,3BASSA,2QUINDICESIMA ALTA,3BASSA,2MULTI tk,2WHOLE tk,2dd tk,2fm tk,2ie tk,2ta tk",
     "2THIRTY-SECOND tk,2SIXTY-FOURTH tk,2cr az TWENTY-EIGHTH tk,2X kx,2cz kx,2bo X kx,2bn kx bc",
     "4ax,2bg kx UP bc,5ax,4av bc,5ax,4ai bc,5ax,4de bc,5ax,4UP ai bc,6ax,2nn kx bc,4ax",
     "2TRIANGLE-ROUND kx de bc,5ax,2ce kx,2VOID kx,2kx ax,2NULL kx,2CLUSTER kx bc,4ax,2fe,2WHOLE ro",
     "2dd ro,2fm ro,2ie ro,2ta ro,2THIRTY-SECOND ro,2SIXTY-FOURTH ro,2cr az TWENTY-EIGHTH ro",
     "2dk STEM,3SPRECHGESANG STEM,3TREMOLO-1,3TREMOLO-2,3TREMOLO-3,2FINGERED TREMOLO-1,3TREMOLO-2",
     "3TREMOLO-3,2dk AUGMENTATION cx,3FLAG-1,3FLAG-2,3FLAG-3,3FLAG-4,3FLAG-5,2BEGIN BEAM,2sp BEAM",
     "2BEGIN TIE,2sp TIE,2BEGIN SLUR,2sp SLUR,2BEGIN PHRASE,2sp PHRASE,2dk fw,3STACCATO,3TENUTO",
     "3STACCATISSIMO,3MARCATO,3MARCATO-STACCATO,3ACCENT-STACCATO,3LOURE,2ARPEGGIATO UP,3de,2dk DOIT",
     "3RIP,3FLIP,3SMEAR,3BEND,3al yo,3eq yo,2RINFORZANDO,2SUBITO,2Z,2PIANO,2MEZZO,2FORTE,2CRESCENDO",
     "2DECRESCENDO,2GRACE ro oz,4NO oz,2TR,2TURN,2cb TURN,2TURN oz,3UP,2co STROKE-1,3STROKE-2",
     "3STROKE-3,3STROKE-4,3STROKE-5,3STROKE-6,3STROKE-7,3STROKE-8,3STROKE-9,3STROKE-10,3STROKE-11",
     "2HAUPTSTIMME,2NEBENSTIMME,2sp OF STIMME,2DEGREE oz,2dk de BOW,3UP BOW,3HARMONIC"],
    ["3SNAP PIZZICATO,2PEDAL bi,3UP bi,2dd PEDAL bi,2GLISSANDO UP,3de,2ab FINGERNAILS,2DAMP,3ALL",
     "2MAXIMA,2LONGA,2BREVIS,2SEMIBREVIS bc,3ax,2MINIMA,3ax,2SEMIMINIMA bc,3ax,2FUSA bc,3ax",
     "2LONGA PERFECTA tk,3IMPERFECTA tk,2BREVIS tk,2SEMIBREVIS tk,2MINIMA tk,2SEMIMINIMA tk",
     "2TEMPUS PERFECTUM CUM PROLATIONE PERFECTA,6IMPERFECTA,6PERFECTA DIMINUTION-1",
     "3IMPERFECTUM CUM PROLATIONE PERFECTA,6IMPERFECTA,7DIMINUTION-1,7DIMINUTION-2,7DIMINUTION-3",
     "2CROIX,2GREGORIAN C CLEF,3F CLEF,2bn B,2VIRGA,2PODATUS,2CLIVIS,2SCANDICUS,2CLIMACUS,2TORCULUS",
     "2PORRECTUS,3FLEXUS,2SCANDICUS FLEXUS,2TORCULUS RESUPINUS,2PES SUBPUNCTIS,2KIEVAN C CLEF",
     "3sp OF PIECE,3ar ro,3RECITATIVE bi,3WHOLE ro,3dd ro,3fm ro STEM de,6UP,3ie ro STEM de,6UP",
     "3FLAT ak,2SORI,2KORON,1D200:0kn VOCAL qk SYMBOL-1,3SYMBOL-2,3SYMBOL-3,3SYMBOL-4,3SYMBOL-5",
     "3SYMBOL-6,3SYMBOL-7,3SYMBOL-8,3SYMBOL-9,3SYMBOL-10,3SYMBOL-11,3SYMBOL-12,3SYMBOL-13",
     "3SYMBOL-14,3SYMBOL-15,3SYMBOL-16,3SYMBOL-17,3SYMBOL-18,3SYMBOL-19,3SYMBOL-20,3SYMBOL-21",
     "3SYMBOL-22,3SYMBOL-23,3SYMBOL-24,3SYMBOL-50,3SYMBOL-51,3SYMBOL-52,3SYMBOL-53,3SYMBOL-54",
     "1INSTRUMENTAL qk SYMBOL-1,3SYMBOL-2,3SYMBOL-4,3SYMBOL-5,3SYMBOL-7,3SYMBOL-8,3SYMBOL-11",
     "3SYMBOL-12,3SYMBOL-13,3SYMBOL-14,3SYMBOL-17,3SYMBOL-18,3SYMBOL-19,3SYMBOL-23,3SYMBOL-24",
     "3SYMBOL-25,3SYMBOL-26,3SYMBOL-27,3SYMBOL-29,3SYMBOL-30,3SYMBOL-32,3SYMBOL-36,3SYMBOL-37",
     "3SYMBOL-38,3SYMBOL-39,3SYMBOL-40,3SYMBOL-42,3SYMBOL-43,3SYMBOL-45,3SYMBOL-47,3SYMBOL-48",
     "3SYMBOL-49,3SYMBOL-50,3SYMBOL-51,3SYMBOL-52,3SYMBOL-53,3SYMBOL-54,0dk kn lu TRISEME",
     "3TETRASEME,3PENTASEME,0kn lu LEIMMA,1D2E0:0MAYAN pe et,2cr,2cj,2aw,2bt,2by,2fu,2bu,2bs,2dj",
     "2jo,2pt,2nc,2qa,2qp,2np,2pa,2nw,2oq,2ql,1D300:0vc rp rm,0DIGRAM rp HEAVENLY rm,2HUMAN rm",
     "2EARTHLY HEAVEN,3HUMAN,2rm,0TETRAGRAM rp ea,2ig bo,2MIRED,2BARRIER,2KEEPING ad,2CONTRARIETY",
     "2ASCENT,2OPPOSITION,2BRANCHING OUT,2DEFECTIVENESS OR DISTORTION,2DIVERGENCE,2YOUTHFULNESS",
     "2INCREASE,2PENETRATION,2REACH,2yg,2yc BACK,2WAITING,2FOLLOWING,2ADVANCE,2RELEASE,2RESISTANCE",
     "2EASE,2JOY,2CONTENTION,2ENDEAVOUR,2DUTIES,2CHANGE,2DECISIVENESS,2ms RESOLUTION,2PACKING",
     "2LEGION,2CLOSENESS,2KINSHIP,2GATHERING,2STRENGTH,2PURITY,2FULLNESS,2RESIDENCE,2LAW OR MODEL",
     "2RESPONSE,2GOING TO MEET,2ENCOUNTERS,2STOVE,2GREATNESS,2ENLARGEMENT,2PATTERN,2RITUAL,2FLIGHT",
     "2VASTNESS OR WASTING,2CONSTANCY,2xy,2ETERNITY,2UNITY,2DIMINISHMENT,2gn lv,2GUARDEDNESS",
     "2GATHERING IN,2MASSING,2ACCUMULATION,2EMBELLISHMENT,2DOUBT,2WATCH,2SINKING,2INNER,2DEPARTURE",
     "2DARKENING,2DIMMING,2EXHAUSTION,2SEVERANCE,2STOPPAGE,2HARDNESS,2COMPLETION,2CLOSURE,2FAILURE",
     "2AGGRAVATION,2COMPLIANCE,2ON rr VERGE,2DIFFICULTIES,2LABOURING,2FOSTERING",
     "1D360:0COUNTING ROD UNIT cs cr,4cj,4aw,4bt,4by,4fu,4bu,4bs,4dj,2TENS cs cr,4cj,4aw,4bt,4by",
     "4fu,4bu,4bs,4dj,0gv TALLY bi cr,3cj,3aw,3bt,3by,0TALLY bi cr,2by,1D400:0no ms ac A,3B,3C,3D",
     "3E,3F,3G,3H,3I,3J,3K,3L,3M,3N,3O,3P,3Q,3R,3S,3T,3U,3V,3W,3X,3Y,3Z,2ad A,3B,3C,3D,3E,3F,3G,3H",
     "3I,3J,3K,3L,3M,3N,3O,3P,3Q,3R,3S,3T,3U,3V,3W,3X,3Y,3Z,1rc ac A,3B,3C,3D,3E,3F,3G,3H,3I,3J,3K",
     "3L,3M,3N,3O,3P,3Q,3R,3S,3T,3U,3V,3W,3X,3Y,3Z,2ad A,3B,3C,3D,3E,3F,3G,1D456:3I,3J,3K,3L,3M,3N",
     "3O,3P,3Q,3R,3S,3T,3U,3V,3W,3X,3Y,3Z,1ms rc ac A,4B,4C,4D,4E,4F,4G,4H,4I,4J,4K,4L,4M,4N,4O,4P",
     "4Q,4R,4S,4T,4U,4V,4W,4X,4Y,4Z,3ad A,4B,4C,4D,4E,4F,4G,4H,4I,4J,4K,4L,4M,4N,4O,4P,4Q,4R,4S,4T",
     "4U,4V,4W,4X,4Y,4Z,1iq ac A,1D49E:3C,3D,1D4A2:3G,1D4A5:3J,3K,1D4A9:3N,3O,3P,3Q,1D4AE:3S,3T,3U",
     "3V,3W,3X,3Y,3Z,2ad A,3B,3C,3D,1D4BB:3F,1D4BD:3H,3I,3J,3K,3L,3M,3N,1D4C5:3P,3Q,3R,3S,3T,3U,3V",
     "3W,3X,3Y,3Z,1ms iq ac A,4B,4C,4D,4E,4F,4G,4H,4I,4J,4K,4L,4M,4N,4O,4P,4Q,4R,4S,4T,4U,4V,4W,4X",
     "4Y,4Z,3ad A,4B,4C,4D,4E,4F,4G,4H,4I,4J,4K,4L,4M,4N,4O,4P,4Q,4R,4S,4T,4U,4V,4W,4X,4Y,4Z",
     "1FRAKTUR ac A,3B,1D507:3D,3E,3F,3G,1D50D:3J,3K,3L,3M,3N,3O,3P,3Q,1D516:3S,3T,3U,3V,3W,3X,3Y",
     "1D51E:2ad A,3B,3C,3D,3E,3F,3G,3H,3I,3J,3K,3L,3M,3N,3O,3P,3Q,3R,3S,3T,3U,3V,3W,3X,3Y,3Z",
     "1ho ac A,3B,1D53B:3D,3E,3F,3G,1D540:3I,3J,3K,3L,3M,1D546:3O,1D54A:3S,3T,3U,3V,3W,3X,3Y",
     "1D552:2ad A,3B,3C,3D,3E,3F,3G,3H,3I,3J,3K,3L,3M,3N,3O,3P,3Q,3R,3S,3T,3U,3V,3W,3X,3Y,3Z",
     "1ms FRAKTUR ac A,4B,4C,4D,4E,4F,4G,4H,4I,4J,4K,4L,4M,4N,4O,4P,4Q,4R,4S,4T,4U,4V,4W,4X,4Y,4Z",
     "3ad A,4B,4C,4D,4E,4F,4G,4H,4I,4J,4K,4L,4M,4N,4O,4P,4Q,4R,4S,4T,4U,4V,4W,4X,4Y,4Z,1ev ac A,3B",
     "3C,3D,3E,3F,3G,3H,3I,3J,3K,3L,3M,3N,3O,3P,3Q,3R,3S,3T,3U,3V,3W,3X,3Y,3Z,2ad A,3B,3C,3D,3E,3F",
     "3G,3H,3I,3J,3K,3L,3M,3N,3O,3P,3Q,3R,3S,3T,3U,3V,3W,3X,3Y,3Z,2ms ac A,4B,4C,4D,4E,4F,4G,4H,4I",
     "4J,4K,4L,4M,4N,4O,4P,4Q,4R,4S,4T,4U,4V,4W,4X,4Y,4Z,3ad A,4B,4C,4D,4E,4F,4G,4H,4I,4J,4K,4L,4M",
     "4N,4O,4P,4Q,4R,4S,4T,4U,4V,4W,4X,4Y,4Z,2rc ac A,4B,4C,4D,4E,4F,4G,4H,4I,4J,4K,4L,4M,4N,4O,4P",
     "4Q,4R,4S,4T,4U,4V,4W,4X,4Y,4Z,3ad A,4B,4C,4D,4E,4F,4G,4H,4I,4J,4K,4L,4M,4N,4O,4P,4Q,4R,4S,4T",
     "4U,4V,4W,4X,4Y,4Z,2ms rc ac A,5B,5C,5D,5E,5F,5G,5H,5I,5J,5K,5L,5M,5N,5O,5P,5Q,5R,5S,5T,5U,5V",
     "5W,5X,5Y,5Z,4ad A,5B,5C,5D,5E,5F,5G,5H,5I,5J,5K,5L,5M,5N,5O,5P,5Q,5R,5S,5T,5U,5V,5W,5X,5Y,5Z",
     "1MONOSPACE ac A,3B,3C,3D,3E,3F,3G,3H,3I,3J,3K,3L,3M,3N,3O,3P,3Q,3R,3S,3T,3U,3V,3W,3X,3Y,3Z",
     "2ad A,3B,3C,3D,3E,3F,3G,3H,3I,3J,3K,3L,3M,3N,3O,3P,3Q,3R,3S,3T,3U,3V,3W,3X,3Y,3Z,1rc ad lc I",
     "4J,1D6A8:1ms ac im,3ss,3lo,3ml,3gx,3yi,3ETA,3kg,3ma,3nh,3rl,3MU,3NU,3XI,3jd,3PI,3xp,3kg au",
     "3kc,3TAU,3gp,3zc,3CHI,3PSI,3hm,2NABLA,2ad im,3ss,3lo,3ml,3gx,3yi,3ETA,3kg,3ma,3nh,3rl,3MU,3NU",
     "3XI,3jd,3PI,3xp,3ar kc,3kc,3TAU,3gp,3zc,3CHI,3PSI,3hm,2td nq,2gx au,2kg au,2nh au,2zc au",
     "2xp au,2PI au,1rc ac im,3ss,3lo,3ml,3gx,3yi,3ETA,3kg,3ma,3nh,3rl,3MU,3NU,3XI,3jd,3PI,3xp",
     "3kg au,3kc,3TAU,3gp,3zc,3CHI,3PSI,3hm,2NABLA,2ad im,3ss,3lo,3ml,3gx,3yi,3ETA,3kg,3ma,3nh,3rl",
     "3MU,3NU,3XI,3jd,3PI,3xp,3ar kc,3kc,3TAU,3gp,3zc,3CHI,3PSI,3hm,2td nq,2gx au,2kg au,2nh au",
     "2zc au,2xp au,2PI au,1ms rc ac im,4ss,4lo,4ml,4gx,4yi,4ETA,4kg,4ma,4nh,4rl,4MU,4NU,4XI,4jd",
     "4PI,4xp,4kg au,4kc,4TAU,4gp,4zc,4CHI,4PSI,4hm,3NABLA,3ad im,4ss,4lo,4ml,4gx,4yi,4ETA,4kg,4ma",
     "4nh,4rl,4MU,4NU,4XI,4jd,4PI,4xp,4ar kc,4kc,4TAU,4gp,4zc,4CHI,4PSI,4hm,3td nq,3gx au,3kg au"],
    ["3nh au,3zc au,3xp au,3PI au,1ev ms ac im,4ss,4lo,4ml,4gx,4yi,4ETA,4kg,4ma,4nh,4rl,4MU,4NU,4XI",
     "4jd,4PI,4xp,4kg au,4kc,4TAU,4gp,4zc,4CHI,4PSI,4hm,3NABLA,3ad im,4ss,4lo,4ml,4gx,4yi,4ETA,4kg",
     "4ma,4nh,4rl,4MU,4NU,4XI,4jd,4PI,4xp,4ar kc,4kc,4TAU,4gp,4zc,4CHI,4PSI,4hm,3td nq,3gx au",
     "3kg au,3nh au,3zc au,3xp au,3PI au,3rc ac im,5ss,5lo,5ml,5gx,5yi,5ETA,5kg,5ma,5nh,5rl,5MU,5NU",
     "5XI,5jd,5PI,5xp,5kg au,5kc,5TAU,5gp,5zc,5CHI,5PSI,5hm,4NABLA,4ad im,5ss,5lo,5ml,5gx,5yi,5ETA",
     "5kg,5ma,5nh,5rl,5MU,5NU,5XI,5jd,5PI,5xp,5ar kc,5kc,5TAU,5gp,5zc,5CHI,5PSI,5hm,4td nq,4gx au",
     "4kg au,4nh au,4zc au,4xp au,4PI au,1ms ac ye,2ad ye,1D7CE:2cs et,3cr,3cj,3aw,3bt,3by,3fu,3bu",
     "3bs,3dj,1ho cs et,3cr,3cj,3aw,3bt,3by,3fu,3bu,3bs,3dj,1ev cs et,3cr,3cj,3aw,3bt,3by,3fu,3bu",
     "3bs,3dj,2ms cs et,4cr,4cj,4aw,4bt,4by,4fu,4bu,4bs,4dj,1MONOSPACE cs et,3cr,3cj,3aw,3bt,3by",
     "3fu,3bu,3bs,3dj,0SIGNWRITING ej ci,1gf ci,1sm ci,1wp ci,1ge ci,1iz ci,1ej ci mk,1gf ci mk",
     "1ej dt yk ci mk,2ci ii KNUCKLE,3CUPPED,3mb,4in,1gf ci HINGE,1ej ci bb,1gf ci bb,1ej ci bb mk",
     "4ii KNUCKLES,4mb,3UP bb mb,3mb bb UP,3bb gw,5ci mk,5bb mk,5CUPPED,5mb,4me,1gf ci bb me",
     "1ej bb mk dv ci,2ci mk dv bb,3bb dt,1gf ci bb dt,1ej ci bb gl dt mk,4mk dt gl,4dt mk",
     "4mb og dt nl,3UP bb mb dt nl,7gw,3mb bb UP dt nl,3bb UP og dt jf,4dt CUPPED,5dl,5HOOKED,5mb",
     "2dt ju ci bb gl,2ci bb gw dt nl,7gw,7mk,2bb dt HOOKED ci UP,2ci dt HOOKED bb UP",
     "3bb gw mb dt nl,4me dt nl,4gw dt jf,5CUPPED dt jf,2bb dt CUPPED ci UP,2ci dt CUPPED bb UP",
     "2bb dt dl ci UP,6mb,2ci dt ANGLED OUT bb UP,5IN bb UP,4dl bb UP,3bb dt gw mb,5ANGLED OUT",
     "5ANGLED,2bb dt ANGLED OUT ci UP,7me,5ci UP,2ci dt HOOKED bb mb,1HAND-FLAT bt hj,4mk,4mb,4gw",
     "5SPLIT,1HAND-CLAW bt hj gw,1ej bt hj gw mk,1ge bt hj gw,1HAND-FLAT by hj og,2HEEL by hj og",
     "2by hj og bt mk,2HEEL by hj og bt mk,2by hj og mk,2HEEL by hj og mk,2by hj og dt jf",
     "1sm by hj og,5fg,1ge by hj og fg,1wp by hj og,1HAND-FLAT by hj og mb,6dt nl,6NO dt,1HAND-FLAT",
     "2ju PALM FACINGS,2HEEL,2dt nl,2HEEL dt nl,2dt mk,3jf,2SPLIT ci dt nl,3ea,4dt nl,6mk,3dz",
     "1HAND-CLAW,2dt nl,2NO dt,2dt jf,1tg CURLICUE,1tg,1sm fg,1sm,2fg dt nl,2dt nl,2fg NO dt,2NO dt",
     "2fg dt jf,2dt jf,1tw fg,1tw,1gf,1wp,2dt nl,2NO dt,2dt jf,1ge fg,3dt jf,1ge,2ad,2fg dt nl",
     "2dt nl,2fg NO dt,2NO dt,2dt nl TOUCHING ci,3ju bb ei,1iz,1ej ci bb ei,1gf ci bb ei",
     "1ge ci bb ei,1iz ci bb ei,1ge dz,1ej ci bb ei mk,5gw,1ge ci bb ei gw,1ej dz de,4RIPPLE gl,5rf",
     "4OTHERS dl,3UP,2dt yk dz UP,1gf dz UP,1wp dz UP,1iz dz UP,1ej dz ii KNUCKLE,3mk,3TOUCHES dt",
     "3dt,1ge dz dt,1ej dz ci dt,1ge dz ci dt,1iz dz ci dt ci dt OUT,6dt,1ej dz ci,1gf dz ci",
     "1ge dz ci,1iz dz ci,1ej ci bb dz,1gf ci bb dz,1ge ci bb dz,2ei,1iz ci bb dz,1ej ci bb gs dz",
     "1gf ci bb gs dz,1ej ei de,1ge ei de ci dt bv bb,1iz ei de bb dt ci gs,1ej ei UP,3ii KNUCKLE",
     "3dz,1gf ei dz,1wp ei dz,1iz ei dz,1ej ei bb,4gw,4ii KNUCKLES,3ci,3dt,1tg ei dt,1ej ci ei dz",
     "1gf ci ei dz,1tw ci ei dz ON,1tg ci ei dz OUT,5IN,5yk,1sm ci ei dz,1ge ci ei dz",
     "1iz ci ei dz OUT,4dz,1ej bb de,1ge bb,1ej bb UP,1gf bb UP,1ej bb ii KNUCKLE,3UP dt nl",
     "1tg bb dt,1ej bb dt dz,3dz,3ei dz,1gf bb ei dz,1tw bb ei dz ON,1sm bb ei dz,1ge bb ei dz",
     "1iz bb ei dz OUT,5IN,4dz,1gf bb ei dz mk,1HAND-CLAW bb ei dz gw,6nl,1tg bb ei dz gw OUT,6IN",
     "5gw,1ge ci mb,1ej ci dt nl,1ge ci dt nl,1ej ci dt nl dt dm,6gw,6mk,5ci mk,5BOTH mk,5ci HINGE",
     "4jf ci gl,6mk,4bv,4CURLICUE,4nj dt km,1HAND-CLAW ci dt nj dt km,1ej ci dt nj dt yk,4bo",
     "1sm ci dt,4fg,1ge ci dt fg,4ed,3dt,4ad,1iz ci dt OUT,4IN,3dt,1ej dt,3HEEL,3nl dm,4gw,4mk,3jf",
     "3ju ci bb,4bb ei,4ei dz,3yk cj hj,3dv cj hj,3yk aw hj,4bt hj,3dv bt ii KNUCKLES,1ej,2HEEL",
     "1TOUCH cw,2kl,2ju,1GRASP cw,2kl,2ju,1STRIKE cw,2kl,2ju,1BRUSH cw,2kl,2ju,1RUB cw,2kl,2ju",
     "1SURFACE SYMBOLS,2ju,1SQUEEZE ed cw,2ad cw,2ed kl,2ad kl,2yw,1FLICK ed cw,2ad cw,2ed kl",
     "2ad kl,2yw,1SQUEEZE FLICK ft,1MOVEMENT-HINGE UP de ed,4ad,3yw,2de yw,2UP de ft ed,5ad",
     "2nl TO nl uv,1ew wq yg,1en wq yg,1ew cw gl ad,4cd,4ed,4rb,3to FLEX,2al gl,3to FLEX,3ft",
     "4to FLEX,2gs,2eq gl qm,3to FLEX,3ft,4to FLEX,2BEND ad,3cd,3ed,2gz ad,3cd,3ed,3ROTATION,2tz ad",
     "3cd,3ed,2xv ad,3cd,3ed,2vw ad,3cd,3ed,2PEAKS ad,3cd,3ed,1TRAVEL-WALLPLANE ld cw,3al,3ft",
     "2kv cw,3al,3ft,2SHAKING,2ARM SPIRAL cw,4al,4eq,1MOVEMENT-DIAGONAL AWAY ad,3cd,3ed,3rb",
     "2TOWARDS ad,3cd,3ed,3rb,2ju AWAY ad,4cd,4ed,4rb,3TOWARDS ad,4cd,4ed,4rb,1en cw gl ad,4cd,4ed",
     "4rb,3to FLEX,2al gl,3to FLEX,3ft,4to FLEX,2gs,2eq gl qm,3to FLEX,3ft qm,4to FLEX,2BEND,2gz ad",
     "3cd,3ed,2tz,2xv ad,3cd,3ed,2vw ad,3cd,3ed,2PEAKS ad,3cd,3ed,1TRAVEL-FLOORPLANE kv cw,3al,3ft",
     "2ld cw,3al,3ft,2SHAKING,1ew nj fm ad,4cd,4ed,4rb,3HALF-CIRCLE ad,4cd,4ed,4rb",
     "3THREE-QUARTER bo ad,5cd,2HUMP ad,3cd,3ed,2tl ad,3cd,3ed,3ad al,2pz nj al ad,5cd,5ed,4eq ad",
     "5cd,5ed,2nj THEN gl,2rf gs ad,4cd,1ld cw,2al,2fr,1ew SHAKING,2nj fx FRONT WALL",
     "2HUMP fx FRONT WALL,2tl fx FRONT WALL,2pz fx FRONT WALL,1ld cw fx FRONT WALL",
     "2al fx FRONT WALL,2ft fx FRONT WALL,1ew nj fx CHEST,2HUMP fx CHEST,2tl fx CHEST,2pz fx CHEST",
     "1ld cw fx CHEST,2al fx CHEST,2ft fx CHEST,1ew pz dm PATH ad,5cd,5ed,1en nj fx rh ad,5ed",
     "2HUMP fx rh ad al,5ed al,5ad eq,5ed eq,2tl fx rh ad cw,5ed cw,5ad al,5ed al,2pz fx rh ad,5ed",
     "1kv cw fx rh,2al fx rh,2ft fx rh,1en nj fx xg ad,5ed,2HUMP fx xg ad al,5ed al,5eq ad eq",
     "6ed eq,2tl fx xg ad cw,5ed cw,5ad al,5ed al,2pz fx xg ad,5ed,1kv cw fx xg,2al fx xg,2ft fx xg",
     "1en nj ad,3cd,3ed,3rb,3COMBINED,2HUMP ad,2tl ad,2pz SNAKE,3ad,3ed,1kv cw,2al,2ft",
     "1en SHAKING qh,1ew ARM bo ad cw,4cd cw,4ad al,4cd al,1en ARM bo fx WALL ad cw,6cd cw,6ed cw",
     "6ad al,6cd al,6ed al,1ew to bo FRONT cw,5al,1en to bo fx WALL cw,6al,1ew wq mf cw,4al",
     "1en wq mf fx WALL cw,6al,1DYNAMIC bm ad,3ed,2FAST,2SLOW,2TENSE,2RELAXED,2SIMULTANEOUS,3ft",
     "2EVERY OTHER TIME,2GRADUAL,1sk,2RIM,2ew gl,3TILT,2en gl,2ew nj,2en nj,2qm bo",
     "1ds DIRECTION POSITION NOSE jf TILTING,5UP OR de,8TILTING,1EYEBROWS gl UP,3ia,3de"],
    ["1DREAMY EYEBROWS ia de,3de ia,3UP ia,3ia UP,1FOREHEAD ia,2yg,2rs,1rd fg,2SQUEEZED,2gn",
     "1EYE BLINK cw,3kl,1rd dd fg,2WIDE fg,2dd gn,2WIDENING qm,1EYE WINK,1EYELASHES UP,2de",
     "2FLUTTERING,1vo gl,3al,3ft,1EYEGAZE-FLOORPLANE gl,3al,3ft,1vo rf,1EYEGAZE-FLOORPLANE rf",
     "1vo CIRCLING,1CHEEKS PUFFED,2ia,2SUCKED,1TENSE CHEEKS fv,3bb,3in,1EARS,1NOSE ia,2yg,2WRINKLES",
     "2WIGGLES,1AIR BLOWING OUT,2SUCKING IN,2BLOW ad ROTATIONS,2SUCK ad ROTATIONS,1BREATH INHALE",
     "2EXHALE,1lv gn ia,3jf,3yg,2SMILE,3rs,3fg,2FROWN,3rs,3fg,2fg bo,3jf,3rs,3OVAL,4rs,4YAWN,3qg",
     "4rs,4YAWN,2KISS,3jf,3rs,2TENSE,3jf,3SUCKED,1LIPS PRESSED TOGETHER,1LIP ct dv dq,2dq dv ct",
     "1lv yf,2WRINKLES cw,3al,1yo STICKING OUT FAR,2LICKING LIPS,2TIP ju LIPS,3TOUCHING km lv",
     "2km lv RELAXED,2MOVES AGAINST CHEEK,2ea STICKING OUT,3km lv,1TEETH,2qm,2ON yo,4qm,3LIPS,4qm",
     "2BITE LIPS,1ew JAW,1en JAW,1NECK,1HAIR,1EXCITEMENT,1SHOULDER HIP SPINE,3POSITIONS",
     "1WALLPLANE SHOULDER HIP MOVE,1FLOORPLANE SHOULDER HIP MOVE,1SHOULDER TILTING md WAIST",
     "1TORSO-WALLPLANE gl STRETCH,2rf BEND,1TORSO-FLOORPLANE TWISTING",
     "1dq BODY TILTING md HIP JOINTS,1LIMB COMBINATION,2LENGTH-1,2LENGTH-2,2LENGTH-3,2LENGTH-4",
     "2LENGTH-5,2LENGTH-6,2LENGTH-7,1wq,1LOCATION-WALLPLANE lj,1LOCATION-FLOORPLANE lj",
     "1LOCATION HEIGHT,2WIDTH,2DEPTH,2sk NECK,2TORSO,2LIMBS DIGITS,1es,1ig gb,1ka,1io,1ce",
     "1DA9B:1xu MODIFIER-2,2MODIFIER-3,2MODIFIER-4,2MODIFIER-5,2MODIFIER-6",
     "1DAA1:1ROTATION MODIFIER-2,2MODIFIER-3,2MODIFIER-4,2MODIFIER-5,2MODIFIER-6,2MODIFIER-7",
     "2MODIFIER-8,2MODIFIER-9,2MODIFIER-10,2MODIFIER-11,2MODIFIER-12,2MODIFIER-13,2MODIFIER-14",
     "2MODIFIER-15,2MODIFIER-16,1DF00:0fo ad aa FENG gr ab TRILL,3bq iq G,1aa ad ac cg G",
     "1ad aa bq K,1aa ad ac L ab BELT,1ad aa LEZH ab da bv,3cg Y ab BELT,3bq ENG",
     "3cg R ab fj LEG bh da bv,3T ab bv bh da bv,1aa da vq ab da bv,1ad aa ESH ab al gc,7bh qu",
     "3cg T ab qu,1aa cb gq gb ab qu,2STRETCHED C ab qu,2ad ac cg K,1ad aa L ab so",
     "3DEZH gr ab gh bv,3L ab BELT bh gh bv,3ENG ab gh bv,3cg R ab gh bv,3R ab so bh gh bv",
     "3TESH gr ab gh bv,3EZH ab gh bv,3DEZH gr ab da bv,3I ab at bh da bv,3O ab da bv",
     "3TESH gr ab da bv,3C ab da bv,3S ab qu,1E000:0dk GLAGOLITIC aa AZU,3BUKY,3VEDE,3GLAGOLI",
     "3DOBRO,3YESTU,3ZHIVETE,1E008:3ZEMLJA,3IZHE,3ap IZHE,3I,3DJERVI,3KAKO,3LJUDIJE,3MYSLITE,3NASHI",
     "3ONU,3POKOJI,3RITSI,3SLOVO,3TVRIDO,3UKU,3FRITU,3HERU,1E01B:3SHTA,3TSI,3CHRIVI,3kf,3YERU,3YERI",
     "3YATI,1E023:3YU,3ad vy,1E026:3YO,3ya ad vy,3BIG vy,3ya BIG vy,3FITA",
     "1E100:0NYIAKENG PUACHUE HMONG aa MA,4vu,4NTA,4TA,4HA,4NA,4XA,4NKA,4CA,4LA,4SA,4ZA,4NCA,4NTSA",
     "4KA,4DA,4lb,4NRA,4VA,4NTXA,4TXA,4FA,4RA,4QA,4YA,4NQA,4PA,4XYA,4NPA,4DLA,4NPLA,4iu,4MLA,4PLA",
     "4GA,4RRA,4A,4AA,4I,4U,4O,4OO,4E,4EE,4W,1E130:3TONE-B,3TONE-M,3TONE-J,3TONE-V,3TONE-S,3TONE-G",
     "3TONE-D,3ak rp ls,5THING,5LOCATION,5ANIMAL,5INVERTEBRATE,4XW XW,3ij zk,1E140:3cs et,4cr,4cj",
     "4aw,4bt,4by,4fu,4bu,4bs,4dj,1E14E:3zj NYAJ,3dl CA,1E290:0TOTO aa PA,2BA,2TA,2DA,2KA,2GA,2MA",
     "2NA,2ke,2SA,2kz,2YA,2WA,2JA,2HA,2RA,2LA,2I,2BREATHY I,2IU,2BREATHY IU,2U,2E,2BREATHY E,2EO",
     "2BREATHY EO,2O,2AE,2BREATHY AE,2A,1ak ok ff,1E2C0:0WANCHO aa AA,2A,2BA,2CA,2DA,2GA,2YA,2mz",
     "2LA,2NA,2PA,2TA,2lp,2FA,2SA,2kf,2JA,2ZA,2WA,2VA,2KA,2O,2AU,2RA,2MA,2lf,2HA,2E,2I,2ke,2U,2LLHA",
     "2vu,2TRA,2ONG,2AANG,2ANG,2ING,2ON,2EN,2AAN,2lb,2UEN,2YIH,1ff TUP,2TUPNI,2KOI,2KOINI,1cs et",
     "2cr,2cj,2aw,2bt,2by,2fu,2bu,2bs,2dj,1E2FF:1NGUN ak,1E7E0:0ETHIOPIC ij HHYA,2HHYU,2HHYI,2HHYAA",
     "2HHYEE,2HHYE,2HHYO,1E7E8:2GURAGE HHWA,2HHWI,2HHWEE,2HHWE,1E7ED:2GURAGE MWI,3MWEE,1E7F0:3QWI",
     "3QWEE,3QWE,3BWI,3BWEE,3KWI,3KWEE,3KWE,3GWI,3GWEE,3GWE,3FWI,3FWEE,3PWI,3PWEE",
     "1E800:0MENDE KIKAKUI ij M001 KI,3M002 KA,3M003 KU,3M065 KEE,3M095 KE,3M076 KOO,3M048 KO",
     "3M179 KUA,3M004 WI,3M005 WA,3M006 WU,3M126 WEE,3M118 WE,3M114 WOO,3M045 WO,3M194 WUI",
     "3M143 WEI,3M061 WVI,3M049 WVA,3M139 WVE,3M007 MIN,3M008 MAN,3M009 MUN,3M059 MEN,3M094 MON",
     "3M154 MUAN,3M189 MUEN,3M010 BI,3M011 BA,3M012 BU,3M150 BEE,3M097 BE,3M103 BOO,3M138 BO",
     "3M013 I,3M014 A,3M015 U,3M163 EE,3M100 E,3M165 OO,3M147 O,3M137 EI,3M131 IN,3M135 IN,3M195 AN",
     "3M178 EN,3M019 SI,3M020 SA,3M021 SU,3M162 SEE,3M116 SE,3M136 SOO,3M079 SO,3M196 SIA,3M025 LI",
     "3M026 LA,3M027 LU,3M084 LEE,3M073 LE,3M054 LOO,3M153 LO,3M110 fj LE,3M016 DI,3M017 DA",
     "3M018 DU,3M089 DEE,3M180 DOO,3M181 DO,3M022 TI,3M023 TA,3M024 TU,3M091 TEE,3M055 TE,3M104 TOO",
     "3M069 TO,3M028 JI,3M029 JA,3M030 JU,3M157 JEE,3M113 JE,3M160 JOO,3M063 JO,3M175 fj JO",
     "3M031 YI,3M032 YA,3M033 YU,3M109 YEE,3M080 YE,3M141 YOO,3M121 YO,3M034 FI,3M035 FA,3M036 FU",
     "3M078 FEE,3M075 FE,3M133 FOO,3M088 FO,3M197 FUA,3M101 FAN,3M037 NIN,3M038 NAN,3M039 ow",
     "3M117 NEN,3M169 NON,3M176 HI,3M041 HA,3M186 HU,3M040 HEE,3M096 HE,3M042 HOO,3M140 HO",
     "3M083 HEEI,3M128 HOOU,3M053 HIN,3M130 HAN,3M087 HUN,3M052 HEN,3M193 HON,3M046 HUAN,3M090 NGGI",
     "3M043 NGGA,3M082 NGGU,3M115 NGGEE,3M146 NGGE,3M156 NGGOO,3M120 NGGO,3M159 NGGAA,3M127 NGGUA",
     "3M086 fj NGGE,3M106 fj NGGOO,3M183 fj NGGO,3M155 GI,3M111 GA,3M168 GU,3M190 GEE,3M166 GUEI",
     "3M167 GUAN,3M184 NGEN,3M057 NGON,3M177 NGUAN,3M068 PI,3M099 PA,3M050 PU,3M081 PEE,3M051 PE",
     "3M102 POO,3M066 PO,3M145 MBI,3M062 MBA,3M122 MBU,3M047 MBEE,3M188 MBEE,3M072 MBE,3M172 MBOO",
     "3M174 MBO,3M187 MBUU,3M161 fj MBE,3M105 fj MBOO,3M142 fj MBO,3M132 KPI,3M092 KPA,3M074 KPU",
     "3M044 KPEE,3M108 KPE,3M112 KPOO,3M158 KPO,3M124 GBI,3M056 GBA,3M148 GBU,3M093 GBEE,3M107 GBE",
     "3M071 GBOO,3M070 GBO,3M171 RA,3M123 NDI,3M129 NDA,3M125 NDU,3M191 NDEE,3M119 NDE,3M067 NDOO",
     "3M064 NDO,3M152 NJA,3M192 NJU,3M149 NJEE,3M134 NJOO,3M182 VI,3M185 VA,3M151 VU,3M173 VEE",
     "3M085 VE,3M144 VOO,3M077 VO,3M164 NYIN,3M058 NYAN,3M170 NYUN,3M098 NYEN,3M060 NYON",
     "1E8C7:2cs cr,3cj,3aw,3bt,3by,3fu,3bu,3bs,3dj,2dk dr TEENS,4TENS,4HUNDREDS,4nv,4jo nv,4az nv",
     "4sd,1E900:0ADLAM ac aa ALIF,3DAALI,3LAAM,3MIIM,3BA,3SINNYIIYHE,3PE,3BHE,3RA,3E,3FA,3I,3O,3ov"],
    ["3YHE,3rq,3ow,3vv,3YA,3U,3JIIM,3CHI,3HA,3QAAF,3GA,3lb,3TU,3NHA,3VA,3lf,3GBE,3ZAL,3KPO,3kf",
     "1ad aa ALIF,3DAALI,3LAAM,3MIIM,3BA,3SINNYIIYHE,3PE,3BHE,3RA,3E,3FA,3I,3O,3ov,3YHE,3rq,3ow,3vv",
     "3YA,3U,3JIIM,3CHI,3HA,3QAAF,3GA,3lb,3TU,3NHA,3VA,3lf,3GBE,3ZAL,3KPO,3kf,1ALIF zk,1cm zk",
     "1ug bi,1ib,1fq ey,1GEMINATE fq ey,1kk,1NASALIZATION bi,1E950:1cs et,2cr,2cj,2aw,2bt,2by,2fu",
     "2bu,2bs,2dj,1E95E:1ap dy bi,2fd bi,1EC71:0INDIC SIYAQ dr cr,3cj,3aw,3bt,3by,3fu,3bu,3bs,3dj",
     "3jo,3fl,3jg,3ni,3ik,3oi,3fh,3mp,3fy,3cr az,3cj az,3aw az,3bt az,3by az,3fu az,3bu az,3bs az",
     "3dj az,3cr ba,3cj ba,3aw ba,3bt ba,3by ba,3fu ba,3bu ba,3bs ba,3dj ba,3jo ba,3fl ba,3jg ba",
     "3ni ba,3ik ba,3oi ba,3fh ba,3mp ba,3fy ba,3LAKH,3LAKHAN,2LAKH bi,2dr KAROR,3KARORAN",
     "3PREFIXED cr,4cj,4aw,4bt,4by,4fu,4bu,4bs,4dj,2PLACEHOLDER,2ht cr fm,4dd,3aw jh,2RUPEE bi",
     "2dr fr cr,4cj,4jo ba,2fr LAKH bi,1ED01:0OTTOMAN SIYAQ dr cr,3cj,3aw,3bt,3by,3fu,3bu,3bs,3dj",
     "3jo,3fl,3jg,3ni,3ik,3oi,3fh,3mp,3fy,3cr az,3cj az,3aw az,3bt az,3by az,3fu az,3bu az,3bs az",
     "3dj az,3cr ba,3cj ba,3aw ba,3bt ba,3by ba,3fu ba,3bu ba,3bs ba,3dj ba,3jo ba,3fl ba,3jg ba",
     "3ni ba,3ik ba,3oi ba,3fh ba,3mp ba,3fy ba,2MARRATAN,2fr dr cj,4aw,4bt,4by,4fu,4bu,4bs,4dj,4jo",
     "4bt az,4fu az,4cj ba,4jo ba,2ht cr dd,4SIXTH,1EE00:0ko no eb,2BEH,2fi,2DAL,1EE05:2rq,2vx,2iu",
     "2wu,2he,2vv,2sf,2cu,2kb,2ne,2ul,2FEH,2SAD,2xx,2uy,2my,2TEH,2THEH,2hw,2THAL,2DAD,2ZAH,2on",
     "2lc BEH,3kb,3FEH,3xx,1EE21:2ap BEH,3fi,1EE24:3wo,1EE27:3iu,1EE29:3he,3vv,3sf,3cu,3kb,3ne,3ul",
     "3FEH,3SAD,3xx,1EE34:3my,3TEH,3THEH,3hw,1EE39:3DAD,1EE3B:3on,1EE42:2TAILED fi,1EE47:3iu",
     "1EE49:3he,1EE4B:3sf,1EE4D:3kb,3ne,3ul,1EE51:3SAD,3xx,1EE54:3my,1EE57:3hw,1EE59:3DAD,1EE5B:3on",
     "1EE5D:3lc kb,1EE5F:4xx,1EE61:2STRETCHED BEH,3fi,1EE64:3wo,1EE67:3iu,3wu,3he,3vv,1EE6C:3cu,3kb",
     "3ne,3ul,3FEH,3SAD,3xx,1EE74:3my,3TEH,3THEH,3hw,1EE79:3DAD,3ZAH,3on,3lc BEH,1EE7E:4FEH",
     "1EE80:2LOOPED eb,3BEH,3fi,3DAL,3wo,3rq,3vx,3iu,3wu,3he,1EE8B:3sf,3cu,3kb,3ne,3ul,3FEH,3SAD",
     "3xx,3uy,3my,3TEH,3THEH,3hw,3THAL,3DAD,3ZAH,3on,1EEA1:2ho BEH,3fi,3DAL,1EEA5:3rq,3vx,3iu,3wu",
     "3he,1EEAB:3sf,3cu,3kb,3ne,3ul,3FEH,3SAD,3xx,3uy,3my,3TEH,3THEH,3hw,3THAL,3DAD,3ZAH,3on",
     "1EEF0:2do cu ab iu ab TATWEEL,3iu ab DAL,1F000:0MAHJONG TILE gy WIND,2gu WIND,2hv WIND",
     "2gg WIND,2RED wr,2GREEN wr,2bc wr,2cr OF lh,2cj OF lh,2aw OF lh,2bt OF lh,2by OF lh,2fu OF lh",
     "2bu OF lh,2bs OF lh,2dj OF lh,2cr OF rj,2cj OF rj,2aw OF rj,2bt OF rj,2by OF rj,2fu OF rj",
     "2bu OF rj,2bs OF rj,2dj OF rj,2cr OF mf,2cj OF mf,2aw OF mf,2bt OF mf,2by OF mf,2fu OF mf",
     "2bu OF mf,2bs OF mf,2dj OF mf,2PLUM,2ORCHID,2BAMBOO,2CHRYSANTHEMUM,2SPRING,2SUMMER,2AUTUMN",
     "2WINTER,2JOKER,2BACK,1F030:0DOMINO TILE as BACK,2HORIZONTAL-00-00,2HORIZONTAL-00-01",
     "2HORIZONTAL-00-02,2HORIZONTAL-00-03,2HORIZONTAL-00-04,2HORIZONTAL-00-05,2HORIZONTAL-00-06",
     "2HORIZONTAL-01-00,2HORIZONTAL-01-01,2HORIZONTAL-01-02,2HORIZONTAL-01-03,2HORIZONTAL-01-04",
     "2HORIZONTAL-01-05,2HORIZONTAL-01-06,2HORIZONTAL-02-00,2HORIZONTAL-02-01,2HORIZONTAL-02-02",
     "2HORIZONTAL-02-03,2HORIZONTAL-02-04,2HORIZONTAL-02-05,2HORIZONTAL-02-06,2HORIZONTAL-03-00",
     "2HORIZONTAL-03-01,2HORIZONTAL-03-02,2HORIZONTAL-03-03,2HORIZONTAL-03-04,2HORIZONTAL-03-05",
     "2HORIZONTAL-03-06,2HORIZONTAL-04-00,2HORIZONTAL-04-01,2HORIZONTAL-04-02,2HORIZONTAL-04-03",
     "2HORIZONTAL-04-04,2HORIZONTAL-04-05,2HORIZONTAL-04-06,2HORIZONTAL-05-00,2HORIZONTAL-05-01",
     "2HORIZONTAL-05-02,2HORIZONTAL-05-03,2HORIZONTAL-05-04,2HORIZONTAL-05-05,2HORIZONTAL-05-06",
     "2HORIZONTAL-06-00,2HORIZONTAL-06-01,2HORIZONTAL-06-02,2HORIZONTAL-06-03,2HORIZONTAL-06-04",
     "2HORIZONTAL-06-05,2HORIZONTAL-06-06,2an BACK,2VERTICAL-00-00,2VERTICAL-00-01,2VERTICAL-00-02",
     "2VERTICAL-00-03,2VERTICAL-00-04,2VERTICAL-00-05,2VERTICAL-00-06,2VERTICAL-01-00",
     "2VERTICAL-01-01,2VERTICAL-01-02,2VERTICAL-01-03,2VERTICAL-01-04,2VERTICAL-01-05",
     "2VERTICAL-01-06,2VERTICAL-02-00,2VERTICAL-02-01,2VERTICAL-02-02,2VERTICAL-02-03",
     "2VERTICAL-02-04,2VERTICAL-02-05,2VERTICAL-02-06,2VERTICAL-03-00,2VERTICAL-03-01",
     "2VERTICAL-03-02,2VERTICAL-03-03,2VERTICAL-03-04,2VERTICAL-03-05,2VERTICAL-03-06",
     "2VERTICAL-04-00,2VERTICAL-04-01,2VERTICAL-04-02,2VERTICAL-04-03,2VERTICAL-04-04",
     "2VERTICAL-04-05,2VERTICAL-04-06,2VERTICAL-05-00,2VERTICAL-05-01,2VERTICAL-05-02",
     "2VERTICAL-05-03,2VERTICAL-05-04,2VERTICAL-05-05,2VERTICAL-05-06,2VERTICAL-06-00",
     "2VERTICAL-06-01,2VERTICAL-06-02,2VERTICAL-06-03,2VERTICAL-06-04,2VERTICAL-06-05",
     "2VERTICAL-06-06,1F0A0:0PLAYING CARD BACK,2ACE OF nd,2cj OF nd,2aw OF nd,2bt OF nd,2by OF nd",
     "2fu OF nd,2bu OF nd,2bs OF nd,2dj OF nd,2jo OF nd,2JACK OF nd,2hr OF nd,2pd OF nd,2tm OF nd",
     "1F0B1:2ACE OF lg,2cj OF lg,2aw OF lg,2bt OF lg,2by OF lg,2fu OF lg,2bu OF lg,2bs OF lg",
     "2dj OF lg,2jo OF lg,2JACK OF lg,2hr OF lg,2pd OF lg,2tm OF lg,2RED JOKER,1F0C1:2ACE OF jw",
     "2cj OF jw,2aw OF jw,2bt OF jw,2by OF jw,2fu OF jw,2bu OF jw,2bs OF jw,2dj OF jw,2jo OF jw",
     "2JACK OF jw,2hr OF jw,2pd OF jw,2tm OF jw,2ax JOKER,1F0D1:2ACE OF rn,2cj OF rn,2aw OF rn",
     "2bt OF rn,2by OF rn,2fu OF rn,2bu OF rn,2bs OF rn,2dj OF rn,2jo OF rn,2JACK OF rn,2hr OF rn",
     "2pd OF rn,2tm OF rn,2bc JOKER,2FOOL,2TRUMP-1,2TRUMP-2,2TRUMP-3,2TRUMP-4,2TRUMP-5,2TRUMP-6",
     "2TRUMP-7,2TRUMP-8,2TRUMP-9,2TRUMP-10,2TRUMP-11,2TRUMP-12,2TRUMP-13,2TRUMP-14,2TRUMP-15",
     "2TRUMP-16,2TRUMP-17,2TRUMP-18,2TRUMP-19,2TRUMP-20,2TRUMP-21,1F100:0cs et ig gb,2es,1cr es",
     "1cj es,1aw es,1bt es,1by es,1fu es,1bu es,1bs es,1dj es,0DINGBAT dl ev cs et,1is dl ev cs et",
     "0dl et ab oz,1eo ae,1DOLLAR ak ab OVERLAID qw,0tu fo ac aa A,4B,4C,4D,4E,4F,4G,4H,4I,4J,4K,4L",
     "4M,4N,4O,4P,4Q,4R,4S,4T,4U,4V,4W,4X,4Y,4Z,0if kt BRACKETED fo ac aa S,0dl rc fo ac aa C,5R",
     "1CD,1WZ,0COPYLEFT au,0ez fo ac aa A,4B,4C,4D,4E,4F,4G,4H,4I,4J,4K,4L,4M,4N,4O,4P,4Q,4R,4S,4T",
     "4U,4V,4W,4X,4Y,4Z,1HV,1MV,1SD,1SS,1PPV,1WC,0is dl fo ac aa A,5B,5C,5D,5E,5F,5G,5H,5I,5J,5K,5L",
     "5M,5N,5O,5P,5Q,5R,5S,5T,5U,5V,5W,5X,5Y,5Z,0ii MC ak,1MD ak,1MR ak,0dl CC,1C ab OVERLAID qw"],
    ["1HUMAN FIGURE,0is ez fo ac aa A,5B,5C,5D,5E,5F,5G,5H,5I,5J,5K,5L,5M,5N,5O,5P,5Q,5R,5S,5T,5U",
     "5V,5W,5X,5Y,5Z,0me is ez fo ac aa P,0is ez IC,2PA,2SA,2AB,2WC,0bn DJ,0ez CL,1COOL,1FREE,1ID",
     "1NEW,1NG,1OK,1SOS,1UP ab dy bi,1VS,1aw D,1yx SCREEN,1cj K,1bt K,1bs K,1by rz cr,1bu rz cr",
     "1TWENTY-TWO rz cj,1oi P,1cr az fl P,1fo ad aa D,1HC,1HDR,1HI-RES,1LOSSLESS,1SHV,1UHD,1VOD",
     "0MASK WORK au,1F1E6:0REGIONAL ny au aa A,4B,4C,4D,4E,4F,4G,4H,4I,4J,4K,4L,4M,4N,4O,4P,4Q,4R",
     "4S,4T,4U,4V,4W,4X,4Y,4Z,0bn vk HOKA,0ez lz KOKO,2SA,1F210:1CJK UNIFIED IDEOGRAPH-624B",
     "3IDEOGRAPH-5B57,3IDEOGRAPH-53CC,1lz DE,1CJK UNIFIED IDEOGRAPH-4E8C,3IDEOGRAPH-591A",
     "3IDEOGRAPH-89E3,3IDEOGRAPH-5929,3IDEOGRAPH-4EA4,3IDEOGRAPH-6620,3IDEOGRAPH-7121",
     "3IDEOGRAPH-6599,3IDEOGRAPH-524D,3IDEOGRAPH-5F8C,3IDEOGRAPH-518D,3IDEOGRAPH-65B0",
     "3IDEOGRAPH-521D,3IDEOGRAPH-7D42,3IDEOGRAPH-751F,3IDEOGRAPH-8CA9,3IDEOGRAPH-58F0",
     "3IDEOGRAPH-5439,3IDEOGRAPH-6F14,3IDEOGRAPH-6295,3IDEOGRAPH-6355,3IDEOGRAPH-4E00",
     "3IDEOGRAPH-4E09,3IDEOGRAPH-904A,3IDEOGRAPH-5DE6,3IDEOGRAPH-4E2D,3IDEOGRAPH-53F3",
     "3IDEOGRAPH-6307,3IDEOGRAPH-8D70,3IDEOGRAPH-6253,3IDEOGRAPH-7981,3IDEOGRAPH-7A7A",
     "3IDEOGRAPH-5408,3IDEOGRAPH-6E80,3IDEOGRAPH-6709,3IDEOGRAPH-6708,3IDEOGRAPH-7533",
     "3IDEOGRAPH-5272,3IDEOGRAPH-55B6,3IDEOGRAPH-914D",
     "1F240:0if kt BRACKETED CJK UNIFIED IDEOGRAPH-672C,5IDEOGRAPH-4E09,5IDEOGRAPH-4E8C",
     "5IDEOGRAPH-5B89,5IDEOGRAPH-70B9,5IDEOGRAPH-6253,5IDEOGRAPH-76D7,5IDEOGRAPH-52DD",
     "5IDEOGRAPH-6557,1F250:0dl IDEOGRAPH ADVANTAGE,2ACCEPT,1F260:0pc au rp FU,3LU,3SHOU,3XI",
     "3SHUANGXI,3CAI,1F300:0CYCLONE,0FOGGY,0gn yl,0NIGHT ab STARS,0SUNRISE dv MOUNTAINS,0SUNRISE",
     "0CITYSCAPE AT DUSK,0SUNSET dv BUILDINGS,0RAINBOW,0BRIDGE AT NIGHT,0rt pz,0VOLCANO,0MILKY WAY",
     "0rm GLOBE EUROPE-AFRICA,2AMERICAS,2ASIA-AUSTRALIA,0GLOBE ab MERIDIANS,0NEW nn au",
     "0WAXING vp nn au,0zy fm nn au,0WAXING GIBBOUS nn au,0ig nn au,0WANING GIBBOUS nn au",
     "0LAST fm nn au,0WANING vp nn au,0vp nn,0NEW nn ab ds,0zy fm nn ab ds,0LAST fm nn ab ds",
     "0ig nn ab ds,0SUN ab ds,0GLOWING hg,0SHOOTING hg,0THERMOMETER,0ax DROPLET,0bc SUN",
     "2ab ad CLOUD,2BEHIND CLOUD,4ab RAIN,0CLOUD ab RAIN,2SNOW,2LIGHTNING,2TORNADO,0FOG",
     "0WIND BLOWING ds,0HOT DOG,0TACO,0BURRITO,0CHESTNUT,0SEEDLING,0EVERGREEN TREE,0DECIDUOUS TREE",
     "0PALM TREE,0CACTUS,0HOT PEPPER,0TULIP,0CHERRY BLOSSOM,0ROSE,0HIBISCUS,0SUNFLOWER,0BLOSSOM",
     "0EAR OF MAIZE,2RICE,0HERB,0bt qo CLOVER,0MAPLE qo,0FALLEN qo,0qo FLUTTERING IN WIND,0MUSHROOM",
     "0TOMATO,0AUBERGINE,0GRAPES,0MELON,0WATERMELON,0TANGERINE,0LEMON,0BANANA,0PINEAPPLE,0RED APPLE",
     "0GREEN APPLE,0PEAR,0PEACH,0CHERRIES,0STRAWBERRY,0HAMBURGER,0SLICE OF PIZZA,0MEAT ON BONE",
     "0POULTRY LEG,0RICE CRACKER,1BALL,0COOKED RICE,0CURRY bh RICE,0STEAMING BOWL,0SPAGHETTI,0BREAD",
     "0FRENCH FRIES,0ROASTED SWEET POTATO,0DANGO,0ODEN,0SUSHI,0FRIED SHRIMP",
     "0FISH CAKE ab SWIRL DESIGN,0xo ICE CREAM,0SHAVED ICE,0ICE CREAM,0DOUGHNUT,0COOKIE",
     "0CHOCOLATE gc,0CANDY,0LOLLIPOP,0CUSTARD,0HONEY POT,0SHORTCAKE,0BENTO xv,0POT OF FOOD,0COOKING",
     "0FORK bh KNIFE,0TEACUP WITHOUT HANDLE,0SAKE BOTTLE bh CUP,0WINE GLASS,0COCKTAIL GLASS",
     "0TROPICAL DRINK,0BEER MUG,0CLINKING BEER MUGS,0BABY BOTTLE,0FORK bh KNIFE ab PLATE",
     "0BOTTLE ab POPPING CORK,0POPCORN,0RIBBON,0WRAPPED PRESENT,0BIRTHDAY CAKE,0JACK-O-LANTERN",
     "0CHRISTMAS TREE,0FATHER CHRISTMAS,0FIREWORKS,0FIREWORK SPARKLER,0BALLOON,0PARTY POPPER",
     "0CONFETTI BALL,0TANABATA TREE,0me FLAGS,0PINE DECORATION,0sh DOLLS,0CARP STREAMER,0WIND CHIME",
     "0nn VIEWING CEREMONY,0SCHOOL SATCHEL,0GRADUATION CAP,0jj ab TIP ON rr av,0BOUQUET OF FLOWERS",
     "0MILITARY MEDAL,0REMINDER RIBBON,0lu zl ab JACKS,0STUDIO MICROPHONE,0LEVEL SLIDER,0rg KNOBS",
     "0BEAMED ASCENDING lu NOTES,1DESCENDING lu NOTES,0FILM FRAMES,0ADMISSION TICKETS,0CAROUSEL zs",
     "0FERRIS WHEEL,0ROLLER COASTER,0FISHING POLE bh FISH,0MICROPHONE,0MOVIE CAMERA,0CINEMA",
     "0HEADPHONE,0ARTIST PALETTE,0qy HAT,0CIRCUS TENT,0TICKET,0CLAPPER BOARD,0PERFORMING ARTS",
     "0VIDEO GAME,0DIRECT HIT,0SLOT MACHINE,0BILLIARDS,0GAME DIE,0BOWLING,0FLOWER PLAYING CARDS",
     "0lu ro,0kl lu NOTES,0SAXOPHONE,0GUITAR,0lu zl,0TRUMPET,0VIOLIN,0lu SCORE",
     "0RUNNING SHIRT ab SASH,0TENNIS RACQUET bh BALL,0SKI bh SKI BOOT,0BASKETBALL bh HOOP",
     "0CHEQUERED FLAG,0SNOWBOARDER,0RUNNER,0SURFER,0SPORTS MEDAL,0TROPHY,0zs RACING",
     "0AMERICAN FOOTBALL,0RUGBY FOOTBALL,0SWIMMER,0WEIGHT LIFTER,0GOLFER,0RACING MOTORCYCLE,1CAR",
     "0CRICKET BAT bh BALL,0VOLLEYBALL,0FIELD HOCKEY STICK bh BALL,0ICE HOCKEY STICK bh PUCK",
     "0TABLE TENNIS PADDLE bh BALL,0SNOW CAPPED qn,0CAMPING,0BEACH ab yl,0BUILDING CONSTRUCTION",
     "0HOUSE BUILDINGS,0CITYSCAPE,0DERELICT HOUSE BUILDING,0CLASSICAL BUILDING,0DESERT,1ISLAND",
     "0NATIONAL PARK,0STADIUM,0HOUSE BUILDING,1ab GARDEN,0OFFICE BUILDING,0sh POST OFFICE",
     "0EUROPEAN POST OFFICE,0HOSPITAL,0BANK,0AUTOMATED TELLER MACHINE,0HOTEL,0LOVE HOTEL",
     "0CONVENIENCE STORE,0SCHOOL,0DEPARTMENT STORE,0FACTORY,0IZAKAYA LANTERN,0sh CASTLE",
     "0EUROPEAN CASTLE,0bc PENNANT,0ax PENNANT,0WAVING bc FLAG,1ax FLAG,0ROSETTE,0ax ROSETTE,0LABEL",
     "0BADMINTON RACQUET bh SHUTTLECOCK,0BOW bh ae,0AMPHORA,0EMOJI ey FITZPATRICK TYPE-1-2,3TYPE-3",
     "3TYPE-4,3TYPE-5,3TYPE-6,0RAT,0MOUSE,0OX,0rt BUFFALO,0COW,0TIGER,0LEOPARD,0RABBIT,0CAT,0wr",
     "0CROCODILE,0WHALE,0SNAIL,0SNAKE,0zs,0RAM,0GOAT,0SHEEP,0MONKEY,0ROOSTER,0CHICKEN,0DOG,0PIG",
     "0BOAR,0ELEPHANT,0OCTOPUS,0SPIRAL kt,0BUG,0ANT,0HONEYBEE,0LADY BEETLE,0FISH,0TROPICAL FISH",
     "0BLOWFISH,0TURTLE,0HATCHING CHICK,0BABY CHICK,0FRONT-FACING BABY CHICK,0BIRD,0PENGUIN,0KOALA",
     "0POODLE,0DROMEDARY CAMEL,0BACTRIAN CAMEL,0DOLPHIN,0MOUSE ds,0COW ds,0TIGER ds,0RABBIT ds",
     "0CAT ds,0wr ds,0SPOUTING WHALE,0zs ds,0MONKEY ds,0DOG ds,0PIG ds,0FROG ds,0HAMSTER ds",
     "0WOLF ds,0BEAR ds,0PANDA ds,0PIG NOSE,0PAW PRINTS,0CHIPMUNK,0rd,0EYE,0EAR,0NOSE,0lv,0yo"],
    ["0bc UP ca qx ci,1de ca qx ci,1av ca qx ci,1ai ca qx ci,0FISTED mc ak,0WAVING mc ak,0OK mc ak",
     "0THUMBS UP ak,1de ak,0CLAPPING zt ak,0fg zt ak,0CROWN,0WOMANS HAT,0EYEGLASSES,0NECKTIE",
     "0T-SHIRT,0JEANS,0DRESS,0KIMONO,0BIKINI,0WOMANS CLOTHES,0PURSE,0HANDBAG,0POUCH,0MANS SHOE",
     "0ATHLETIC SHOE,0HIGH-HEELED SHOE,0WOMANS SANDAL,1BOOTS,0FOOTPRINTS,0BUST IN yv,0BUSTS IN yv",
     "0BOY,0GIRL,0MAN,0WOMAN,0FAMILY,0MAN bh WOMAN yc zt,0cj MEN yc zt,1WOMEN yc zt,0POLICE OFFICER",
     "0WOMAN ab BUNNY EARS,0BRIDE ab VEIL,0ls ab BLOND HAIR,0MAN ab GUA PI MAO,2TURBAN,0OLDER MAN",
     "1WOMAN,0BABY,0CONSTRUCTION WORKER,0PRINCESS,0sh OGRE,1GOBLIN,0GHOST,0BABY ANGEL",
     "0EXTRATERRESTRIAL ALIEN,0ALIEN MONSTER,0IMP,0SKULL,0pi DESK ls,0GUARDSMAN,0DANCER,0LIPSTICK",
     "0NAIL POLISH,0ds MASSAGE,0HAIRCUT,0BARBER POLE,0SYRINGE,0PILL,0KISS bi,0LOVE aa,0ei",
     "0GEM STONE,0KISS,0BOUQUET,0COUPLE ab jj,0WEDDING,0BEATING jj,0BROKEN jj,0cj lg,0SPARKLING jj",
     "0GROWING jj,0jj ab ae,0BLUE jj,0GREEN jj,0YELLOW jj,0PURPLE jj,0jj ab RIBBON,0REVOLVING lg",
     "0jj DECORATION,0ek SHAPE ab A cx km,0ELECTRIC cn BULB,0ANGER au,0BOMB,0SLEEPING au",
     "0COLLISION au,0SPLASHING SWEAT au,0DROPLET,0jn au,0PILE OF POO,0FLEXED BICEPS,0DIZZY au",
     "0ys BALLOON,0THOUGHT BALLOON,0bc FLOWER,0az POINTS au,0MONEY BAG,0CURRENCY EXCHANGE",
     "0bl DOLLAR ak,0CREDIT CARD,0BANKNOTE ab YEN ak,2DOLLAR ak,2EURO ak,2POUND ak,0MONEY ab WINGS",
     "0CHART ab bp TREND bh YEN ak,0SEAT,0PERSONAL COMPUTER,0BRIEFCASE,0MINIDISC,0FLOPPY DISK",
     "0OPTICAL DISC,0DVD,0FILE zw,0fg FILE zw,0PAGE ab qu,1FACING UP,0CALENDAR,0TEAR-OFF CALENDAR",
     "0CARD ci,0CHART ab bp TREND,2ay TREND,0gc CHART,0CLIPBOARD,0PUSHPIN,0tr PUSHPIN,0PAPERCLIP",
     "0gl RULER,0fc RULER,0BOOKMARK TABS,0LEDGER,0NOTEBOOK,1ab DECORATIVE COVER,0gn BOOK,0fg BOOK",
     "0GREEN BOOK,0BLUE BOOK,0ORANGE BOOK,0BOOKS,0NAME BADGE,0SCROLL,0MEMO,0jz RECEIVER,0PAGER",
     "0FAX MACHINE,0SATELLITE ANTENNA,0PUBLIC ADDRESS LOUDSPEAKER,0CHEERING MEGAPHONE,0OUTBOX TRAY",
     "0INBOX TRAY,0PACKAGE,0E-MAIL au,0INCOMING op,0op ab ay ae aj,0gn MAILBOX ab LOWERED FLAG",
     "3ii FLAG,0fg MAILBOX ab ii FLAG,3LOWERED FLAG,0POSTBOX,0POSTAL ky,0NEWSPAPER,0MOBILE PHONE",
     "2ab ah ae AT av,0VIBRATION MODE,0MOBILE PHONE OFF,0NO MOBILE PHONES,0ANTENNA ab BARS,0CAMERA",
     "1ab FLASH,0VIDEO CAMERA,0TELEVISION,0RADIO,0VIDEOCASSETTE,0FILM PROJECTOR,0PORTABLE STEREO",
     "0PRAYER BEADS,0TWISTED ah mg,0jk ah bh am fg bo mg,7ab dl cr hn,1ay bh bp fg bo mg",
     "0eo ay bh bp fg bo mg,0in BRIGHTNESS au,0fv BRIGHTNESS au,0SPEAKER ab vr at,0SPEAKER",
     "1ab cr oh pz,2aw oh WAVES,0BATTERY,0ELECTRIC PLUG,0ee MAGNIFYING GLASS,0dc MAGNIFYING GLASS",
     "0LOCK ab INK PEN,0gn LOCK ab KEY,0KEY,0LOCK,0fg LOCK,0BELL,1ab vr at,0BOOKMARK,0LINK au",
     "0RADIO BUTTON,0BACK ab am ae aj,0sp ab am ae aj,0ON ab dy bi ab av ai ae aj,0SOON ab ah ae aj",
     "0qy ab bp ae aj,0NO cr yk oq au,0KEYCAP jo,0INPUT au rp fo ac LETTERS,4ad LETTERS,3NUMBERS",
     "3SYMBOLS,3fo LETTERS,0FIRE,0ELECTRIC TORCH,0WRENCH,0HAMMER,0NUT bh BOLT,0HOCHO,0PISTOL",
     "0MICROSCOPE,0TELESCOPE,0CRYSTAL BALL,0fu fa hg ab bb cx,0sh au rp BEGINNER,0TRIDENT EMBLEM",
     "0ax bn BUTTON,0bc bn BUTTON,0ed RED bo,1BLUE bo,1ORANGE ek,1BLUE ek,0ad ORANGE ek,1BLUE ek",
     "0hf RED bg,0hc RED bg,0hf ad RED bg,0hc ad RED bg,0ct ai ki bc bo,0dq ai ki bc bo",
     "0dl gs POMMEE,0gs POMMEE ab HALF-CIRCLE aq,1POMMEE,0ra av ud ab aw du,1ai ud ab aw du",
     "0au rp MARKS CHAPTER,0bc fo gs,0bl fo gs,0CELTIC gs,0OM au,0DOVE OF PEACE,0KAABA,0MOSQUE",
     "0SYNAGOGUE,0MENORAH ab dj BRANCHES,0BOWL OF HYGIEIA,0CLOCK ds cr po,2cj po,2aw po,2bt po",
     "2by po,2fu po,2bu po,2bs po,2dj po,2jo po,2pt po,2nc po,2ONE-THIRTY,2TWO-THIRTY,2THREE-THIRTY",
     "2FOUR-THIRTY,2FIVE-THIRTY,2SIX-THIRTY,2SEVEN-THIRTY,2EIGHT-THIRTY,2NINE-THIRTY,2TEN-THIRTY",
     "2ELEVEN-THIRTY,2TWELVE-THIRTY,0ai SPEAKER,2ab cr oh pz,3aw oh WAVES,0BULLHORN,1ab oh WAVES",
     "0RINGING BELL,0BOOK,0CANDLE,0MANTELPIECE CLOCK,0ax SKULL bh CROSSBONES,0NO PIRACY,0HOLE",
     "0MAN IN BUSINESS SUIT LEVITATING,0SLEUTH OR SPY,0DARK SUNGLASSES,0SPIDER,1WEB,0JOYSTICK",
     "0MAN DANCING,0av mc jz RECEIVER,0jz RECEIVER ab PAGE,0ai mc jz RECEIVER,0bc TOUCHTONE jz",
     "0ax TOUCHTONE jz,0jz ON qy OF MODEM,0CLAMSHELL MOBILE PHONE,0BACK OF op,0STAMPED op",
     "0op ab LIGHTNING,0FLYING op,0PEN dv STAMPED op,0LINKED PAPERCLIPS,0ax PUSHPIN,0ct av PENCIL",
     "2BALLPOINT PEN,2FOUNTAIN PEN,2PAINTBRUSH,2CRAYON,0av WRITING mc,0cg OK mc ak",
     "0ii mc ab hj SPLAYED,0bq ii mc ab hj SPLAYED,1THUMBS UP ak,2de ak,1VICTORY mc,1mc ab bb wq qq",
     "0ii mc ab PART ju bb bh ei hj,0bc de ca av mc ci,0oj bc av ca ci,2ai ca ci,1ax av ca ci",
     "2ai ca ci,0ax av ca qx ci,1ai ca qx ci,0oj bc UP ca ci,2de ca ci,1ax UP ca ci,2de ca ci",
     "0ax UP ca qx ci,1de ca qx ci,1jj,0DESKTOP COMPUTER,0zl bh MOUSE,0aw NETWORKED COMPUTERS",
     "0PRINTER,0POCKET CALCULATOR,0ax HARD kt FLOPPY DISK,0bc HARD kt FLOPPY DISK",
     "0xo kt FLOPPY DISK,0TAPE CARTRIDGE,0WIRED zl,0cr BUTTON MOUSE,0cj BUTTON MOUSE",
     "0aw BUTTON MOUSE,0TRACKBALL,0nb PERSONAL COMPUTER,0HARD DISK,0SCREEN,0PRINTER ICON,0FAX ICON",
     "0OPTICAL DISC ICON,0DOCUMENT ab TEXT,3bh PICTURE,2PICTURE,0FRAME ab PICTURE,2TILES,2AN X",
     "0ax zw,0zw,0fg zw,0CARD ci DIVIDERS,1FILE xv,0FILE CABINET,0EMPTY ro,2PAGE,2PAD,0ro,1PAGE",
     "1PAD,0EMPTY DOCUMENT,1PAGE,1PAGES,0DOCUMENT,0PAGE,0PAGES,0WASTEBASKET,0SPIRAL ro PAD",
     "1CALENDAR PAD,0DESKTOP WINDOW,0MINIMIZE,0MAXIMIZE,0OVERLAP,0jk ai bh av ud mg,0vr X",
     "0INCREASE FONT SIZE au,0DECREASE FONT SIZE au,0COMPRESSION,0nb KEY,0ROLLED-UP NEWSPAPER",
     "0PAGE ab dl TEXT,0STOCK CHART,0DAGGER KNIFE,0LIPS,0SPEAKING sk IN yv,0aw RAYS aj,2aq,2av,2ai",
     "0av ys uj,0ai ys uj,0cj ys BUBBLES,0aw ys BUBBLES,0av THOUGHT uj,0ai THOUGHT uj,0av ANGER uj",
     "0ai ANGER uj,0MOOD uj,0LIGHTNING MOOD uj,1MOOD,0BALLOT xv ab BALLOT,1iq X,1xv ab iq X",
     "1ms iq X,1xv ab ms iq X,0cn tz bi,0BALLOT xv ab ms tz,0WORLD MAP,0MOUNT FUJI,0TOKYO TOWER",
     "0STATUE OF LIBERTY,0yv OF JAPAN,0MOYAI,0GRINNING ds,2ab jr rd,0ds ab TEARS OF JOY"],
    ["0jr ds ab fg lv,5bh jr rd,6COLD SWEAT,6TIGHTLY-CLOSED rd,3HALO,3HORNS,0WINKING ds",
     "0jr ds ab jr rd,0ds SAVOURING DELICIOUS FOOD,0RELIEVED ds,0jr ds ab HEART-SHAPED rd",
     "3SUNGLASSES,0SMIRKING ds,0ia ds,0EXPRESSIONLESS ds,0UNAMUSED ds,0ds ab COLD SWEAT,0PENSIVE ds",
     "0CONFUSED ds,0CONFOUNDED ds,0KISSING ds,0ds THROWING A KISS,0KISSING ds ab jr rd,3gn rd",
     "0ds ab STUCK-OUT yo,4bh WINKING EYE,5TIGHTLY-CLOSED rd,0DISAPPOINTED ds,0WORRIED ds,0ANGRY ds",
     "0POUTING ds,0CRYING ds,0PERSEVERING ds,0ds ab LOOK OF TRIUMPH,0DISAPPOINTED BUT RELIEVED ds",
     "0FROWNING ds ab fg lv,0ANGUISHED ds,0FEARFUL ds,0WEARY ds,0SLEEPY ds,0TIRED ds,0GRIMACING ds",
     "0LOUDLY CRYING ds,0ds ab fg lv,0HUSHED ds,0ds ab fg lv bh COLD SWEAT,1SCREAMING IN FEAR",
     "0ASTONISHED ds,0FLUSHED ds,0SLEEPING ds,0DIZZY ds,0ds WITHOUT lv,1ab MEDICAL MASK",
     "0GRINNING CAT ds ab jr rd,0CAT ds ab TEARS OF JOY,0jr CAT ds ab fg lv,4HEART-SHAPED rd",
     "0CAT ds ab WRY SMILE,0KISSING CAT ds ab gn rd,0POUTING CAT ds,0CRYING CAT ds,0WEARY CAT ds",
     "0SLIGHTLY FROWNING ds,1jr ds,0UPSIDE-DOWN ds,0ds ab ROLLING rd,2NO GOOD GESTURE,2OK GESTURE",
     "0ls BOWING DEEPLY,0SEE-NO-EVIL MONKEY,0HEAR-NO-EVIL MONKEY,0SPEAK-NO-EVIL MONKEY",
     "0HAPPY ls RAISING cr mc,0ls RAISING BOTH zt IN CELEBRATION,1FROWNING,1ab POUTING ds",
     "2FOLDED zt,0gg hv ca qo,0gu hv ca qo,0gg gy ca qo,0gu gy ca qo,0cg gg hv ca qo,1gu hv ca qo",
     "1gg gy ca qo,1gu gy ca qo,0gg hv ca VINE qo,0gu hv ca VINE qo,0gg gy ca VINE qo",
     "0gu gy ca VINE qo,0bl gg hv ca VINE qo,1gu hv ca VINE qo,1gg gy ca VINE qo,1gu gy ca VINE qo",
     "0gg hv ca BUD,0gu hv ca BUD,0gg gy ca BUD,0gu gy ca BUD,0bl gg hv ca BUD,1gu hv ca BUD",
     "1gg gy ca BUD,1gu gy ca BUD,0HOLLOW QUILT bn co,4IN ax bn,0SOLID QUILT bn co,4IN ax bn",
     "0am ROCKET,0bp ROCKET,0ah ROCKET,0ay ROCKET,0iq el ET co,0bl iq el ET co,0el fg ET co",
     "0bl el fg ET co,1oc co,0SWASH oc co,0ev bl al cg es eh bi co,3es eh bi co,2in al es eh bi co",
     "0bl si co,0ev si co,0bl ev si co,0mv bl hh,2hz hh,0CHECKER BOARD,0hz CHECKER BOARD,0ROCKET",
     "0HELICOPTER,0STEAM LOCOMOTIVE,0RAILWAY CAR,0HIGH-SPEED TRAIN,2ab nf NOSE,0TRAIN,0METRO",
     "0cn RAIL,0STATION,0TRAM,1CAR,0BUS,0zf BUS,0TROLLEYBUS,0BUS gb,0MINIBUS,0AMBULANCE",
     "0FIRE ENGINE,0POLICE CAR,0zf POLICE CAR,0TAXI,0zf TAXI,0AUTOMOBILE,0zf AUTOMOBILE",
     "0RECREATIONAL VEHICLE,0DELIVERY TRUCK,0ARTICULATED LORRY,0TRACTOR,0MONORAIL,0qn RAILWAY",
     "0SUSPENSION RAILWAY,0qn CABLEWAY,0AERIAL TRAMWAY,0SHIP,0ROWBOAT,0SPEEDBOAT,0as TRAFFIC cn",
     "0an TRAFFIC cn,0CONSTRUCTION ak,0POLICE CARS REVOLVING cn,0fc FLAG ON POST,0DOOR,0NO ENTRY ak",
     "0SMOKING au,0NO SMOKING au,0PUT LITTER IN ITS PLACE au,0DO mi LITTER au,0POTABLE rt au",
     "0NON-POTABLE rt au,0BICYCLE,0NO BICYCLES,0BICYCLIST,0qn BICYCLIST,0PEDESTRIAN,0NO PEDESTRIANS",
     "0CHILDREN er,0MENS au,0WOMENS au,0RESTROOM,0BABY au,0TOILET,0rt CLOSET,0SHOWER,0BATH,0BATHTUB",
     "0PASSPORT rg,0CUSTOMS,0BAGGAGE CLAIM,0av LUGGAGE,0bg ab pc yf,0PROHIBITED ak,0dl pi SOURCE",
     "0BOYS au,0GIRLS au,0COUCH bh LAMP,0SLEEPING ACCOMMODATION,0SHOPPING BAGS,0BELLHOP BELL,0BED",
     "0PLACE OF WORSHIP,0OCTAGONAL ak,0SHOPPING TROLLEY,0STUPA,0PAGODA,0HINDU TEMPLE,0HUT,0ELEVATOR",
     "1F6DD:0PLAYGROUND SLIDE,0WHEEL,0ei BUOY,0HAMMER bh WRENCH,0SHIELD,0OIL DRUM,0MOTORWAY",
     "0RAILWAY TRACK,0MOTOR BOAT,0hf MILITARY sv,1sv,1ad sv,0ad sv,0NORTHEAST-POINTING sv",
     "0sv DEPARTURE,1ARRIVING,1F6F0:0SATELLITE,0zf FIRE ENGINE,0DIESEL LOCOMOTIVE,0PASSENGER SHIP",
     "0SCOOTER,0MOTOR SCOOTER,0CANOE,0SLED,0FLYING SAUCER,0SKATEBOARD,0AUTO RICKSHAW,0PICKUP TRUCK",
     "0ROLLER SKATE,1F700:0ALCHEMICAL au rp QUINTESSENCE,3AIR,3FIRE,3rm,3rt,3AQUAFORTIS,3AQUA REGIA",
     "4REGIA-2,4VITAE,4VITAE-2,3VINEGAR,3VINEGAR-2,3VINEGAR-3,3SULFUR,3PHILOSOPHERS SULFUR",
     "3ax SULFUR,3MERCURY we,4SUBLIMATE-2,4SUBLIMATE-3,3CINNABAR,3SALT,3NITRE,3VITRIOL,3VITRIOL-2",
     "3ROCK SALT,4SALT-2,3GOLD,3SILVER,3IRON ORE,4ORE-2,3CROCUS OF IRON,3REGULUS OF IRON",
     "3COPPER ORE,3IRON-COPPER ORE,3we OF COPPER,3CROCUS OF COPPER,5COPPER-2,3COPPER ANTIMONIATE",
     "3SALT OF COPPER ANTIMONIATE,3we OF SALT OF COPPER,3VERDIGRIS,3TIN ORE,3LEAD ORE,3vt ORE",
     "3we OF vt,3SALT OF vt,3we OF SALT OF vt,3VINEGAR OF vt,3REGULUS OF vt,5ANTIMONY-2,3REGULUS",
     "3REGULUS-2,3REGULUS-3,3REGULUS-4,3ALKALI,3ALKALI-2,3MARCASITE,3SAL-AMMONIAC,3ARSENIC,3REALGAR",
     "3REALGAR-2,3AURIPIGMENT,3BISMUTH ORE,3TARTAR,3TARTAR-2,3QUICK LIME,3BORAX,3BORAX-2,3BORAX-3",
     "3ALUM,3OIL,3SPIRIT,3TINCTURE,3GUM,3WAX,3POWDER,3CALX,3TUTTY,3CAPUT MORTUUM,3SCEPTER OF JOVE",
     "3CADUCEUS,3TRIDENT,3STARRED TRIDENT,3LODESTONE,3SOAP,3URINE,3zs DUNG,3ASHES,3POT ASHES,3BRICK",
     "3POWDERED BRICK,3AMALGAM,3STRATUM SUPER STRATUM,5STRATUM-2,3SUBLIMATION,3PRECIPITATE,3DISTILL",
     "3DISSOLVE,3DISSOLVE-2,3PURIFY,3PUTREFACTION,3CRUCIBLE,3CRUCIBLE-2,3CRUCIBLE-3,3CRUCIBLE-4",
     "3CRUCIBLE-5,3ALEMBIC,3BATH OF MARY,5VAPOURS,3RETORT,3HOUR,3NIGHT,3DAY-NIGHT,3MONTH,3dd DRAM",
     "4OUNCE,1F780:0ax ee ISOSCELES ai bg,1hf ISOSCELES ai bg,1dc ISOSCELES ai bg",
     "1hc ISOSCELES ai bg,1SLIGHTLY ad bo,0cd ms bc bo,0ms bc bo,0bl bc bo,0mv bl bc bo",
     "0th bl bc bo,0bc bo ot ax ad bo,0tr TARGET,0ax TINY bn,1SLIGHTLY ad bn,0cn bc bn,0cd bc bn",
     "0ms bc bn,0bl bc bn,0mv bl bc bn,0th bl bc bn,0bc bn ot ax mv ad bn,4cd bn,0bn TARGET",
     "0ax TINY ek,1mv ad ek,1cd ad ek,0bc ek ot ax mv ad ek,4cd ek,0ek TARGET,0ax TINY lw,1mv ad lw",
     "1cd ad lw,0bc lw ot ax ad lw,0THIN kn gs,0cn kn gs,0cd kn gs,0ms kn gs,0mv ms kn gs,1bl kn gs",
     "0th bl kn gs,0THIN nm,0cn nm,0cd nm,0ms nm,0bl nm,0mv bl nm,0th bl nm,0cn by ku di",
     "0cd by ku di,0ms by ku di,0bl by ku di,0mv bl by ku di,0th bl by ku di,0cn fu ku di",
     "0cd fu ku di,0ms fu ku di,0bl fu ku di,0mv bl fu ku di,0th bl fu ku di,0cn bs ku di",
     "0cd bs ku di,0ms bs ku di,0bl bs ku di,0mv bl bs ku di,0cn aw fa ax hg,0cd aw fa ax hg",
     "0aw fa ax hg,0cd aw fa ol hg,0cn bt fa ax hg,0cd bt fa ax hg,0bt fa ax hg,0cd bt fa ol hg",
     "0hz cn bt fa ol hg,0cn by fa ax hg,0bl by fa ax hg,0cd fu fa ax hg,0bl fu fa ax hg"],
    ["0fu fa ol hg,0cd bs fa ax hg,0bl bs fa ax hg,0mv bl bs fa ax hg,0bl bs fa ol hg",
     "0cn nc fa ax hg,0bl nc fa ax hg,3ol hg,0dl bg,0is dl bg,0dl bn,0is dl bn,1F7E0:0ed ORANGE bo",
     "1YELLOW bo,1GREEN bo,1PURPLE bo,1BROWN bo,1RED bn,1BLUE bn,1ORANGE bn,1YELLOW bn,1GREEN bn",
     "1PURPLE bn,1BROWN bn,1F7F0:0bl gm ak,1F800:0am ae ab ad bg bm,0bp ae ab ad bg bm",
     "0ah ae ab ad bg bm,0ay ae ab ad bg bm,0am ae ab cd bg bm,0bp ae ab cd bg bm",
     "0ah ae ab cd bg bm,0ay ae ab cd bg bm,0am ae ab ed bg bm,0bp ae ab ed bg bm",
     "0ah ae ab ed bg bm,0ay ae ab ed bg bm,1F810:0am ae ab ad eg bm,0bp ae ab ad eg bm",
     "0ah ae ab ad eg bm,0ay ae ab ad eg bm,0am ae ab eg bm,0bp ae ab eg bm,0ah ae ab eg bm",
     "0ay ae ab eg bm,0bl am ae ab eg bm,1bp ae ab eg bm,1ah ae ab eg bm,1ay ae ab eg bm",
     "1am ae ab ed eg bm,1bp ae ab ed eg bm,1ah ae ab ed eg bm,1ay ae ab ed eg bm",
     "0am ao ae ab NARROW lk,0bp ao ae ab NARROW lk,0ah ao ae ab NARROW lk,0ay ao ae ab NARROW lk",
     "0am ao ae ab cd lk,0bp ao ae ab cd lk,0ah ao ae ab cd lk,0ay ao ae ab cd lk",
     "0am ao ae ab ms lk,0bp ao ae ab ms lk,0ah ao ae ab ms lk,0ay ao ae ab ms lk",
     "0am ao ae ab bl lk,0bp ao ae ab bl lk,0ah ao ae ab bl lk,0ay ao ae ab bl lk",
     "0am ao ae ab mv bl lk,0bp ao ae ab mv bl lk,0ah ao ae ab mv bl lk,0ay ao ae ab mv bl lk",
     "0am xh ae,0bp xh ae,0ah xh ae,0ay xh ae,0am ez ae,0bp ez ae,0ah ez ae,0ay ez ae,0am mq ae",
     "0bp mq ae,0ah mq ae,0ay mq ae,0am bl mq ae,0bp bl mq ae,0ah bl mq ae,0ay bl mq ae,0am bl ae",
     "0bp bl ae,0ah bl ae,0ay bl ae,1F850:0am ev ae,0bp ev ae,0ah ev ae,0ay ev ae,0gg hv ev ae",
     "1gy ev ae,0gu gy ev ae,1hv ev ae,0av ai ev ae,0UP de ev ae,1F860:0WIDE-HEADED am cn em ae",
     "1bp cn em ae,1ah cn em ae,1ay cn em ae,1gg hv cn em ae,2gy cn em ae,1gu gy cn em ae",
     "2hv cn em ae,1am em ae,1bp em ae,1ah em ae,1ay em ae,1gg hv em ae,2gy em ae,1gu gy em ae",
     "2hv em ae,1am cd em ae,1bp cd em ae,1ah cd em ae,1ay cd em ae,1gg hv cd em ae,2gy cd em ae",
     "1gu gy cd em ae,2hv cd em ae,1am bl em ae,1bp bl em ae,1ah bl em ae,1ay bl em ae",
     "1gg hv bl em ae,2gy bl em ae,1gu gy bl em ae,2hv bl em ae,1am mv bl em ae,1bp mv bl em ae",
     "1ah mv bl em ae,1ay mv bl em ae,1gg hv mv bl em ae,2gy mv bl em ae,1gu gy mv bl em ae",
     "2hv mv bl em ae,1F890:0am bg bm,0bp bg bm,0ah bg bm,0ay bg bm,0am bc ae yj bg bm",
     "0bp bc ae yj bg bm,0ah bc ae yj bg bm,0ay bc ae yj bg bm,0am ae ab ra hp,0bp ae ab ra hp",
     "0ah ae ab ra hp,0ay ae ab ra hp,0bl ae lk WIDTH cr,4cj ub,4cr dd,5rx,0am BOTTOM-SHADED bc ae",
     "0ah ha SHADED bc ae,0am qy SHADED bc ae,0ah qy SHADED bc ae,0am LEFT-SHADED bc ae",
     "0ah RIGHT-SHADED bc ae,0am RIGHT-SHADED bc ae,0ah LEFT-SHADED bc ae,0am BACK-TILTED ki bc ae",
     "0ah BACK-TILTED ki bc ae,0am FRONT-TILTED ki bc ae,0ah FRONT-TILTED ki bc ae",
     "0bc ae lk WIDTH cr,4cj ub,1F8B0:0ae ca bp THEN gg hv,2ah THEN CURVING gu hv",
     "1F900:0dl gs FORMEE ab bt du,4cj du,2FORMEE,0av dd bo ab bt du,4aw du,4cj du,4cx,2bo",
     "0DOWNWARD FACING bv,2ra bv,2bv ab cx,2ra bv ab cx,0PINCHED hj,0bc jj,0BROWN jj,0PINCHING mc",
     "0ZIPPER-MOUTH ds,0MONEY-MOUTH ds,0ds ab THERMOMETER,0NERD ds,0THINKING ds,0ds ab HEAD-BANDAGE",
     "0ROBOT ds,0HUGGING ds,0ak OF rr HORNS,0CALL ME mc,0ii BACK OF mc,0xf FIST,0uw FIST,0HANDSHAKE",
     "0mc ab ci bh bb hj me,0I LOVE YOU mc ak,0ds ab COWBOY HAT,0CLOWN ds,0NAUSEATED ds",
     "0ROLLING ON rr xg LAUGHING,0DROOLING ds,0LYING ds,0ds PALM,0SNEEZING ds,0ds ab cr EYEBROW ii",
     "0GRINNING ds ab hg rd,3cr ed bh cr ad EYE,0ds ab wq COVERING gn LIPS",
     "0SERIOUS ds ab SYMBOLS COVERING lv,0jr ds ab jr rd bh mc COVERING lv,0ds ab fg lv VOMITING",
     "0SHOCKED ds ab EXPLODING sk,0PREGNANT WOMAN,0BREAST-FEEDING,0PALMS UP TOGETHER,0SELFIE",
     "0PRINCE,0MAN IN TUXEDO,0MOTHER CHRISTMAS,0SHRUG,0ls DOING CARTWHEEL,0JUGGLING,0FENCER",
     "0MODERN PENTATHLON,0WRESTLERS,0rt POLO,0HANDBALL,0DIVING MASK,0WILTED FLOWER",
     "0DRUM ab DRUMSTICKS,0CLINKING GLASSES,0TUMBLER GLASS,0SPOON,0GOAL NET,0RIFLE,0zy PLACE MEDAL",
     "0yx PLACE MEDAL,0rx PLACE MEDAL,0BOXING GLOVE,0MARTIAL ARTS UNIFORM,0CURLING STONE",
     "0LACROSSE STICK bh BALL,0SOFTBALL,0FLYING DISC,0CROISSANT,0AVOCADO,0CUCUMBER,0BACON,0POTATO",
     "0CARROT,0BAGUETTE BREAD,0GREEN SALAD,0SHALLOW PAN OF FOOD,0STUFFED FLATBREAD,0EGG",
     "0GLASS OF MILK,0PEANUTS,0KIWIFRUIT,0PANCAKES,0DUMPLING,0FORTUNE COOKIE,0TAKEOUT xv",
     "0CHOPSTICKS,0BOWL ab SPOON,0CUP ab STRAW,0COCONUT,0BROCCOLI,0PIE,0PRETZEL,0CUT OF MEAT",
     "0SANDWICH,0CANNED FOOD,0LEAFY GREEN,0MANGO,0nn CAKE,0BAGEL,0jr ds ab jr rd bh aw lg",
     "0YAWNING ds,0jr ds ab TEAR,0ds ab PARTY ky bh PARTY HAT,2UNEVEN rd bh WAVY lv,0OVERHEATED ds",
     "0FREEZING ds,0NINJA,0DISGUISED ds,0ds yc BACK TEARS,1ab PLEADING rd,0SARI,0LAB COAT,0GOGGLES",
     "0HIKING BOOT,0FLAT SHOE,0CRAB,0LION ds,0SCORPION,0TURKEY,0UNICORN ds,0EAGLE,0DUCK,0BAT,0SHARK",
     "0OWL,0FOX ds,0BUTTERFLY,0DEER,0GORILLA,0LIZARD,0RHINOCEROS,0SHRIMP,0SQUID,0GIRAFFE ds",
     "0ZEBRA ds,0HEDGEHOG,0SAUROPOD,0T-REX,0CRICKET,0KANGAROO,0LLAMA,0PEACOCK,0HIPPOPOTAMUS,0PARROT",
     "0RACCOON,0LOBSTER,0MOSQUITO,0MICROBE,0BADGER,0SWAN,0MAMMOTH,0DODO,0SLOTH,0OTTER,0ORANGUTAN",
     "0SKUNK,0FLAMINGO,0OYSTER,0BEAVER,0BISON,0SEAL,0GUIDE DOG,0PROBING CANE",
     "0EMOJI COMPONENT RED HAIR,2kd HAIR,2BALD,2bc HAIR,0BONE,0LEG,0FOOT,0TOOTH,0SUPERHERO",
     "0SUPERVILLAIN,0SAFETY VEST,0EAR ab HEARING AID,0MOTORIZED WHEELCHAIR,0MANUAL WHEELCHAIR",
     "0MECHANICAL ARM,1LEG,0CHEESE WEDGE,0CUPCAKE,0SALT SHAKER,0BEVERAGE xv,0GARLIC,0ONION,0FALAFEL",
     "0WAFFLE,0BUTTER,0MATE DRINK,0ICE CUBE,0uj TEA,0TROLL,0STANDING ls,0KNEELING ls,0DEAF ls",
     "0ds ab MONOCLE,0ADULT,0CHILD,0OLDER ADULT,0BEARDED ls,0ls ab HEADSCARF,1IN STEAMY ROOM",
     "1CLIMBING,1IN LOTUS POSITION,0MAGE,0FAIRY,0VAMPIRE,0MERPERSON,0ELF,0GENIE,0ZOMBIE,0BRAIN",
     "0ORANGE jj,0BILLED CAP,0SCARF,0GLOVES,0COAT,0SOCKS,0RED GIFT op,0FIRECRACKER"],
    ["0JIGSAW PUZZLE PIECE,0TEST TUBE,0PETRI pu,0DNA al HELIX,0COMPASS,0ABACUS,0FIRE EXTINGUISHER",
     "0TOOLBOX,0BRICK,0MAGNET,0LUGGAGE,0LOTION BOTTLE,0SPOOL OF THREAD,0BALL OF YARN,0SAFETY PIN",
     "0TEDDY BEAR,0BROOM,0BASKET,0ROLL OF PAPER,0gc OF SOAP,0SPONGE,0RECEIPT,0NAZAR AMULET",
     "0ia ip tm,2pd,2ROOK,2pv,2hr,2PAWN,0bc ip hr cp FORTY-FIVE dn,0ax ip hr cp FORTY-FIVE dn",
     "0ia ip hr cp FORTY-FIVE dn,0bc ip tm cp fy dn,2pd cp fy dn,2ROOK cp fy dn,2pv cp fy dn",
     "2hr cp fy dn,2PAWN cp fy dn,0ax ip tm cp fy dn,2pd cp fy dn,2ROOK cp fy dn,2pv cp fy dn",
     "2hr cp fy dn,2PAWN cp fy dn,0ia ip tm cp fy dn,2pd cp fy dn,2ROOK cp fy dn,2pv cp fy dn",
     "2hr cp fy dn,2PAWN cp fy dn,0bc ip hr cp cr az THIRTY-FIVE dn",
     "0ax ip hr cp cr az THIRTY-FIVE dn,0ia ip hr cp cr az THIRTY-FIVE dn,0bc ip cg tm,3pd,3ROOK",
     "3pv,3hr,3PAWN,0ax ip cg tm,3pd,3ROOK,3pv,3hr,3PAWN,0ia ip cg tm,3pd,3ROOK,3pv,3hr,3PAWN",
     "0bc ip hr cp cj az ws dn,0ax ip hr cp cj az ws dn,0ia ip hr cp cj az ws dn",
     "0bc ip tm cp cj az fh dn,2pd cp cj az fh dn,2ROOK cp cj az fh dn,2pv cp cj az fh dn",
     "2hr cp cj az fh dn,2PAWN cp cj az fh dn,0ax ip tm cp cj az fh dn,2pd cp cj az fh dn",
     "2ROOK cp cj az fh dn,2pv cp cj az fh dn,2hr cp cj az fh dn,2PAWN cp cj az fh dn",
     "0ia ip tm cp cj az fh dn,2pd cp cj az fh dn,2ROOK cp cj az fh dn,2pv cp cj az fh dn",
     "2hr cp cj az fh dn,2PAWN cp cj az fh dn,0bc ip hr cp aw az np dn,0ax ip hr cp aw az np dn",
     "0ia ip hr cp aw az np dn,0bc ip re,0ax ip re,0ia ip re,0bc ip re cp fy dn,0ax ip re cp fy dn",
     "0ia ip re cp fy dn,0bc ip KNIGHT-QUEEN,2KNIGHT-ROOK,2KNIGHT-BISHOP,0ax ip KNIGHT-QUEEN",
     "2KNIGHT-ROOK,2KNIGHT-BISHOP,1FA60:0XIANGQI RED GENERAL,2MANDARIN,2ELEPHANT,2zs,2CHARIOT",
     "2CANNON,2SOLDIER,1ax GENERAL,2MANDARIN,2ELEPHANT,2zs,2CHARIOT,2CANNON,2SOLDIER",
     "1FA70:0BALLET SHOES,0ONE-PIECE SWIMSUIT,0BRIEFS,0SHORTS,0THONG SANDAL,1FA78:0DROP OF BLOOD",
     "0ADHESIVE BANDAGE,0STETHOSCOPE,0X-RAY,0CRUTCH,1FA80:0YO-YO,0KITE,0PARACHUTE,0BOOMERANG",
     "0MAGIC WAND,0PINATA,0NESTING DOLLS,1FA90:0RINGED PLANET,0CHAIR,0RAZOR,0AXE,0DIYA LAMP,0BANJO",
     "0MILITARY HELMET,0ACCORDION,0fj DRUM,0COIN,0CARPENTRY SAW,0SCREWDRIVER,0LADDER,0bv,0MIRROR",
     "0WINDOW,0PLUNGER,0SEWING NEEDLE,0KNOT,0BUCKET,0MOUSE TRAP,0TOOTHBRUSH,0HEADSTONE,0PLACARD",
     "0ROCK,0MIRROR BALL,0IDENTIFICATION CARD,0in BATTERY,0HAMSA,1FAB0:0FLY,0WORM,0BEETLE",
     "0COCKROACH,0POTTED PLANT,0WOOD,0FEATHER,0LOTUS,0CORAL,0EMPTY NEST,0NEST ab EGGS",
     "1FAC0:0ANATOMICAL jj,0LUNGS,0PEOPLE HUGGING,0PREGNANT MAN,1ls,0ls ab CROWN,1FAD0:0BLUEBERRIES",
     "0BELL PEPPER,0OLIVE,0FLATBREAD,0TAMALE,0FONDUE,0TEAPOT,0POURING LIQUID,0BEANS,0JAR",
     "1FAE0:0MELTING ds,0SALUTING ds,0ds ab fg rd bh mc dv lv,2PEEKING EYE,2dm lv,0ga fz ds",
     "0BITING LIP,0BUBBLES,1FAF0:0mc ab ci wq bh dt me,0ah mc,0am mc,0PALM de mc,1UP mc",
     "0ci ca AT rr VIEWER,0jj zt,1FB00:0eu SEXTANT-1,1SEXTANT-2,1SEXTANT-12,1SEXTANT-3,1SEXTANT-13",
     "1SEXTANT-23,1SEXTANT-123,1SEXTANT-4,1SEXTANT-14,1SEXTANT-24,1SEXTANT-124,1SEXTANT-34",
     "1SEXTANT-134,1SEXTANT-234,1SEXTANT-1234,1SEXTANT-5,1SEXTANT-15,1SEXTANT-25,1SEXTANT-125",
     "1SEXTANT-35,1SEXTANT-235,1SEXTANT-1235,1SEXTANT-45,1SEXTANT-145,1SEXTANT-245,1SEXTANT-1245",
     "1SEXTANT-345,1SEXTANT-1345,1SEXTANT-2345,1SEXTANT-12345,1SEXTANT-6,1SEXTANT-16,1SEXTANT-26",
     "1SEXTANT-126,1SEXTANT-36,1SEXTANT-136,1SEXTANT-236,1SEXTANT-1236,1SEXTANT-46,1SEXTANT-146",
     "1SEXTANT-1246,1SEXTANT-346,1SEXTANT-1346,1SEXTANT-2346,1SEXTANT-12346,1SEXTANT-56",
     "1SEXTANT-156,1SEXTANT-256,1SEXTANT-1256,1SEXTANT-356,1SEXTANT-1356,1SEXTANT-2356",
     "1SEXTANT-12356,1SEXTANT-456,1SEXTANT-1456,1SEXTANT-2456,1SEXTANT-12456,1SEXTANT-3456",
     "1SEXTANT-13456,1SEXTANT-23456,0ct av eu dm ct bb av TO ct ea,9ai,4dq bb av TO ct ea,9ai",
     "5av TO ct ea,1ai eu dm dq bb av TO dq ea,9ai,4ct bb av TO dq ea,9ai,5av TO dq ea",
     "5bb av TO dq bb ai,5ea TO ct bb ai,5av TO ct bb ai,5ea TO dq bb ai,5av TO dq bb ai",
     "5ea TO dq ai,1av eu dm dq ea TO dq bb ai,5av TO dq bb ai,5ea TO ct bb ai,5av TO ct bb ai",
     "5ea TO ct ai,5bb av TO ct bb ai,0dq ai eu dm ct bb av TO ct ea,9ai,4dq bb av TO ct ea,9ai",
     "5av TO ct ea,1av eu dm dq bb av TO dq ea,9ai,4ct bb av TO dq ea,9ai,5av TO dq ea",
     "5bb av TO dq bb ai,5ea TO ct bb ai,5av TO ct bb ai,5ea TO dq bb ai,5av TO dq bb ai",
     "5ea TO dq ai,1ai eu dm dq ea TO dq bb ai,5av TO dq bb ai,5ea TO ct bb ai,5av TO ct bb ai",
     "5ea TO ct ai,5bb av TO ct bb ai,1bh ai bh ct fc aw jh eu,0av bh ct bh ai fc aw jh eu",
     "0dq bh av bh ct fc aw jh eu,0av bh dq bh ai fc aw jh eu,1fc cr fm eu,0dq fc cr fm eu",
     "0ai fc cr fm eu,0ct fc cr fm eu,0an cr ie BLOCK-2,3BLOCK-3,3BLOCK-4,3BLOCK-5,3BLOCK-6",
     "3BLOCK-7,0as cr ie BLOCK-2,3BLOCK-3,3BLOCK-4,3BLOCK-5,3BLOCK-6,3BLOCK-7,0av bh ct cr ie eu",
     "2dq cr ie eu,0ai bh dq cr ie eu,2ct cr ie eu,0dq bh ct cr ie eu,0as cr ie BLOCK-1358",
     "0dq cr fm eu,1aw ks eu,1by ks eu,1aw jh eu,1bu ks eu,0ai cr fm eu,1aw ks eu,1by ks eu",
     "1aw jh eu,1bu ks eu,0av dd cd qe,0ai dd cd qe,0dq dd cd qe,0ct dd cd qe,0ph cd qe",
     "0dq dd eu bh ct dd ph cd qe,2ph cd qe bh ct dd eu,1FB94:0av dd ph cd qe bh ai dd eu",
     "0CHECKER BOARD xu,0ph CHECKER BOARD xu,0bl as xu,0dq av TO ct ai xu,1ai TO ct av xu",
     "1bh ct fc dd eu,0av bh ai fc dd eu,0dq av fc cd qe,1ai fc cd qe,0ct ai fc cd qe,1av fc cd qe",
     "0xv DRAWINGS cn dm dq ea TO bb av,8ai,4bb av TO ct ea,5ai TO ct ea,4dq ea TO bb av TO ct ea",
     "8ai TO ct ea,4bb av TO ct ea TO bb ai,7dq ea TO bb ai,4dq ea TO bb av bh bb ai TO ct ea",
     "8ai bh bb av TO ct ea,9TO ct ea TO bb av,8av TO ct ea TO bb ai",
     "4bb av TO dq ea TO bb ai TO ct ea,5ai TO dq ea TO bb av TO ct ea,4ek,3as ab an at",
     "0ARROWHEAD-SHAPED POINTER,0ph tz bi,0av dd RUNNING MAN,0ai dd RUNNING MAN,0ph ay ae ab TIP am",
     "0am ae bh dq bh ct cr ie eu,0ah ae bh dq bh ct cr ie eu,0ay ae bh ai cr ie eu"],
    ["0bp ae bh ai cr ie eu,0av dd zw,0ai dd zw,0VOIDED kn gs,0ai fg ez cx,0is dm gs",
     "2bb ai TO ct ea,2ek,0bc bl nm ab pc yf,0av rx bc ai ca ci,0bb rx bc ai ca ci",
     "0ai rx bc ai ca ci,0is ez fd bi,0STICK FIGURE,2ab ARMS ii,2LEANING av,3ai,2ab DRESS",
     "0bc hf CHEVRON,1FBF0:0SEGMENTED cs et,2cr,2cj,2aw,2bt,2by,2fu,2bu,2bs,2dj,E0001:0LANGUAGE TAG",
     "E0020:0TAG lj,1dy bi,1eh bi,1dr ak,1DOLLAR ak,1PERCENT ak,1oc,1li,1av ce,1ai ce,1di,1cz ak",
     "1es,1vj,1ig gb,1hh,1cs et,2cr,2cj,2aw,2bt,2by,2fu,2bu,2bs,2dj,1io,1ka,1bw ak,1gm ak,1bj ak",
     "1fd bi,1ui AT,1fo ac aa A,4B,4C,4D,4E,4F,4G,4H,4I,4J,4K,4L,4M,4N,4O,4P,4Q,4R,4S,4T,4U,4V,4W",
     "4X,4Y,4Z,1av bn bd,1hz hh,1ai bn bd,1be fw,1in fz,1ef fw,1fo ad aa A,4B,4C,4D,4E,4F,4G,4H,4I",
     "4J,4K,4L,4M,4N,4O,4P,4Q,4R,4S,4T,4U,4V,4W,4X,4Y,4Z,1av kd bd,1an fz,1ai kd bd,1cq,0CANCEL TAG",
     "E0100:0wb SELECTOR-17,1SELECTOR-18,1SELECTOR-19,1SELECTOR-20,1SELECTOR-21,1SELECTOR-22",
     "1SELECTOR-23,1SELECTOR-24,1SELECTOR-25,1SELECTOR-26,1SELECTOR-27,1SELECTOR-28,1SELECTOR-29",
     "1SELECTOR-30,1SELECTOR-31,1SELECTOR-32,1SELECTOR-33,1SELECTOR-34,1SELECTOR-35,1SELECTOR-36",
     "1SELECTOR-37,1SELECTOR-38,1SELECTOR-39,1SELECTOR-40,1SELECTOR-41,1SELECTOR-42,1SELECTOR-43",
     "1SELECTOR-44,1SELECTOR-45,1SELECTOR-46,1SELECTOR-47,1SELECTOR-48,1SELECTOR-49,1SELECTOR-50",
     "1SELECTOR-51,1SELECTOR-52,1SELECTOR-53,1SELECTOR-54,1SELECTOR-55,1SELECTOR-56,1SELECTOR-57",
     "1SELECTOR-58,1SELECTOR-59,1SELECTOR-60,1SELECTOR-61,1SELECTOR-62,1SELECTOR-63,1SELECTOR-64",
     "1SELECTOR-65,1SELECTOR-66,1SELECTOR-67,1SELECTOR-68,1SELECTOR-69,1SELECTOR-70,1SELECTOR-71",
     "1SELECTOR-72,1SELECTOR-73,1SELECTOR-74,1SELECTOR-75,1SELECTOR-76,1SELECTOR-77,1SELECTOR-78",
     "1SELECTOR-79,1SELECTOR-80,1SELECTOR-81,1SELECTOR-82,1SELECTOR-83,1SELECTOR-84,1SELECTOR-85",
     "1SELECTOR-86,1SELECTOR-87,1SELECTOR-88,1SELECTOR-89,1SELECTOR-90,1SELECTOR-91,1SELECTOR-92",
     "1SELECTOR-93,1SELECTOR-94,1SELECTOR-95,1SELECTOR-96,1SELECTOR-97,1SELECTOR-98,1SELECTOR-99",
     "1SELECTOR-100,1SELECTOR-101,1SELECTOR-102,1SELECTOR-103,1SELECTOR-104,1SELECTOR-105",
     "1SELECTOR-106,1SELECTOR-107,1SELECTOR-108,1SELECTOR-109,1SELECTOR-110,1SELECTOR-111",
     "1SELECTOR-112,1SELECTOR-113,1SELECTOR-114,1SELECTOR-115,1SELECTOR-116,1SELECTOR-117",
     "1SELECTOR-118,1SELECTOR-119,1SELECTOR-120,1SELECTOR-121,1SELECTOR-122,1SELECTOR-123",
     "1SELECTOR-124,1SELECTOR-125,1SELECTOR-126,1SELECTOR-127,1SELECTOR-128,1SELECTOR-129",
     "1SELECTOR-130,1SELECTOR-131,1SELECTOR-132,1SELECTOR-133,1SELECTOR-134,1SELECTOR-135",
     "1SELECTOR-136,1SELECTOR-137,1SELECTOR-138,1SELECTOR-139,1SELECTOR-140,1SELECTOR-141",
     "1SELECTOR-142,1SELECTOR-143,1SELECTOR-144,1SELECTOR-145,1SELECTOR-146,1SELECTOR-147",
     "1SELECTOR-148,1SELECTOR-149,1SELECTOR-150,1SELECTOR-151,1SELECTOR-152,1SELECTOR-153",
     "1SELECTOR-154,1SELECTOR-155,1SELECTOR-156,1SELECTOR-157,1SELECTOR-158,1SELECTOR-159",
     "1SELECTOR-160,1SELECTOR-161,1SELECTOR-162,1SELECTOR-163,1SELECTOR-164,1SELECTOR-165",
     "1SELECTOR-166,1SELECTOR-167,1SELECTOR-168,1SELECTOR-169,1SELECTOR-170,1SELECTOR-171",
     "1SELECTOR-172,1SELECTOR-173,1SELECTOR-174,1SELECTOR-175,1SELECTOR-176,1SELECTOR-177",
     "1SELECTOR-178,1SELECTOR-179,1SELECTOR-180,1SELECTOR-181,1SELECTOR-182,1SELECTOR-183",
     "1SELECTOR-184,1SELECTOR-185,1SELECTOR-186,1SELECTOR-187,1SELECTOR-188,1SELECTOR-189",
     "1SELECTOR-190,1SELECTOR-191,1SELECTOR-192,1SELECTOR-193,1SELECTOR-194,1SELECTOR-195",
     "1SELECTOR-196,1SELECTOR-197,1SELECTOR-198,1SELECTOR-199,1SELECTOR-200,1SELECTOR-201",
     "1SELECTOR-202,1SELECTOR-203,1SELECTOR-204,1SELECTOR-205,1SELECTOR-206,1SELECTOR-207",
     "1SELECTOR-208,1SELECTOR-209,1SELECTOR-210,1SELECTOR-211,1SELECTOR-212,1SELECTOR-213",
     "1SELECTOR-214,1SELECTOR-215,1SELECTOR-216,1SELECTOR-217,1SELECTOR-218,1SELECTOR-219",
     "1SELECTOR-220,1SELECTOR-221,1SELECTOR-222,1SELECTOR-223,1SELECTOR-224,1SELECTOR-225",
     "1SELECTOR-226,1SELECTOR-227,1SELECTOR-228,1SELECTOR-229,1SELECTOR-230,1SELECTOR-231",
     "1SELECTOR-232,1SELECTOR-233,1SELECTOR-234,1SELECTOR-235,1SELECTOR-236,1SELECTOR-237",
     "1SELECTOR-238,1SELECTOR-239,1SELECTOR-240,1SELECTOR-241,1SELECTOR-242,1SELECTOR-243",
     "1SELECTOR-244,1SELECTOR-245,1SELECTOR-246,1SELECTOR-247,1SELECTOR-248,1SELECTOR-249",
     "1SELECTOR-250,1SELECTOR-251,1SELECTOR-252,1SELECTOR-253,1SELECTOR-254,1SELECTOR-255",
     "1SELECTOR-256,0:0NUL,0:0NULL,0SOH,1:0START OF HEADING,2TEXT,2:0STX,0sp OF TEXT,3:0ETX",
     "0sp OF uo,4:0EOT,0ENQ,5:0ENQUIRY,0ACK,6:0xn,0ALERT,7:0BEL,0BACKSPACE,8:0BS,0ic iy,9:0as iy",
     "9:0HT,9:0TAB,0sp OF fz,A:0EOL,A:0LF,A:0fz FEED,A:0NEW fz,A:0NL,0fz iy,B:0an iy,B:0VT,0FF",
     "C:0af FEED,0CARRIAGE RETURN,D:0CR,0LOCKING-SHIFT cr,E:0SHIFT OUT,E:0SO,0LOCKING-SHIFT et",
     "F:0SHIFT IN,F:0SI,0DATA LINK ESCAPE,10:0DLE,0DC1,11:0DEVICE rg cr,0DC2,12:0DEVICE rg cj,0DC3",
     "13:0DEVICE rg aw,0DC4,14:0DEVICE rg bt,0NAK,15:0is xn,0SYN,16:0SYNCHRONOUS IDLE,0sp OF uo eu",
     "17:0ETB,0CAN,18:0CANCEL,0sp OF cd,19:0EOM,0SUB,1A:0SUBSTITUTE,0ESC,1B:0ESCAPE,0FILE ec,1C:0FS",
     "1C:0pi ec bt,0GROUP ec,1D:0GS,1D:0pi ec aw,2cj,1E:0RECORD ec,1E:0RS,0pi ec cr,1F:0UNIT ec",
     "1F:0US,0SP,7F:0DEL,7F:0DELETE,0PAD,80:0PADDING ic,0fv OCTET PRESET,81:0HOP,0BPH",
     "82:0BREAK PERMITTED HERE,0NBH,83:0NO BREAK HERE,0IND,84:0ci,0NEL,85:0NEXT fz,0qz",
     "86:0START OF SELECTED AREA,0sp OF SELECTED AREA,87:0ESA,0ic iy SET,88:0as iy SET,88:0HTS",
     "0ic iy ab JUSTIFICATION,89:0as iy ab JUSTIFICATION,89:0HTJ,0fz iy SET,8A:0an iy SET,8A:0VTS",
     "0td fz de,8B:2jf,8B:0PLD,0td fz BACKWARD,8C:2UP,8C:0PLU,0hz ci,8D:1fz FEED,8D:0RI",
     "0cw SHIFT cj,8E:0SINGLE-SHIFT-2,8E:0SS2,0cw SHIFT aw,8F:0SINGLE-SHIFT-3,8F:0SS3,0DCS",
     "90:0DEVICE rg STRING,0PRIVATE USE cr,91:1USE-1,91:0PU1,0PRIVATE USE cj,92:1USE-2,92:0PU2",
     "0SET TRANSMIT STATE,93:0STS,0CANCEL ic,94:0CCH,0MESSAGE WAITING,95:0MW,0SPA",
     "96:0START OF GUARDED AREA,96:2PROTECTED AREA,0sp OF GUARDED AREA,97:2PROTECTED AREA,97:0EPA"],
    ["0SOS,98:0START OF STRING,0SGC,99:0cw GRAPHIC ic INTRODUCER,0SCI,9A:0cw ic INTRODUCER",
     "0rg SEQUENCE INTRODUCER,9B:0CSI,0ST,9C:0STRING TERMINATOR,0OPERATING SYSTEM COMMAND,9D:0OSC",
     "0PM,9E:0PRIVACY MESSAGE,0APC,9F:0APPLICATION PROGRAM COMMAND,0NBSP,AD:0SHY,1A2:0fo ac aa oo",
     "1ad aa oo,34F:0CGJ,61C:0ALM,709:0SYRIAC SUBLINEAR io SKEWED av,CDE:0KANNADA aa LLLA",
     "E9D:0LAO aa FO FON,E9F:3FAY,EA3:2RO,EA5:2LO,FD0:0TIBETAN bi BKA- SHOG GI MGO RGYAN",
     "11EC:0sl JONGSEONG YESIEUNG-KIYEOK,2YESIEUNG-SSANGKIYEOK,2SSANGYESIEUNG,2YESIEUNG-KHIEUKH",
     "180B:0FVS1,0FVS2,0FVS3,0MVS,0FVS4,200B:0ZWSP,0ZWNJ,0ZWJ,0LRM,0RLM,202A:0LRE,0RLE,0PDF,0LRO",
     "0RLO,0NNBSP,205F:0MMSP,0WJ,2066:0LRI,0RLI,0FSI,0PDI,2118:0WEIERSTRASS ELLIPTIC FUNCTION",
     "2448:0MICR ON US au,1jn au,2B7A:0am ao ae ab al an at,2B7C:0ah ao ae ab al an at",
     "A015:0YI ij lm bi,AA6E:0MYANMAR aa KHAMTI xe,FE00:0VS1,0VS2,0VS3,0VS4,0VS5,0VS6,0VS7,0VS8",
     "0VS9,0VS10,0VS11,0VS12,0VS13,0VS14,0VS15,0VS16,FE18:0uz af rp an ai bc le bd,FEFF:0BOM",
     "FEFF:0BYTE ORDER bi,FEFF:0ZWNBSP,122D4:0CUNEIFORM ak NU11 jm,3dv NU11 BUR dv BUR",
     "16E56:0MEDEFAIDRIN ac aa H,3NG,16E76:1ad aa H,3NG,1B001:0HENTAIGANA aa E-1",
     "1D0C5:0BYZANTINE lu au FTHORA SKLIRON CHROMA VASIS,E0100:0VS17,0VS18,0VS19,0VS20,0VS21,0VS22",
     "0VS23,0VS24,0VS25,0VS26,0VS27,0VS28,0VS29,0VS30,0VS31,0VS32,0VS33,0VS34,0VS35,0VS36,0VS37",
     "0VS38,0VS39,0VS40,0VS41,0VS42,0VS43,0VS44,0VS45,0VS46,0VS47,0VS48,0VS49,0VS50,0VS51,0VS52",
     "0VS53,0VS54,0VS55,0VS56,0VS57,0VS58,0VS59,0VS60,0VS61,0VS62,0VS63,0VS64,0VS65,0VS66,0VS67",
     "0VS68,0VS69,0VS70,0VS71,0VS72,0VS73,0VS74,0VS75,0VS76,0VS77,0VS78,0VS79,0VS80,0VS81,0VS82",
     "0VS83,0VS84,0VS85,0VS86,0VS87,0VS88,0VS89,0VS90,0VS91,0VS92,0VS93,0VS94,0VS95,0VS96,0VS97",
     "0VS98,0VS99,0VS100,0VS101,0VS102,0VS103,0VS104,0VS105,0VS106,0VS107,0VS108,0VS109,0VS110",
     "0VS111,0VS112,0VS113,0VS114,0VS115,0VS116,0VS117,0VS118,0VS119,0VS120,0VS121,0VS122,0VS123",
     "0VS124,0VS125,0VS126,0VS127,0VS128,0VS129,0VS130,0VS131,0VS132,0VS133,0VS134,0VS135,0VS136",
     "0VS137,0VS138,0VS139,0VS140,0VS141,0VS142,0VS143,0VS144,0VS145,0VS146,0VS147,0VS148,0VS149",
     "0VS150,0VS151,0VS152,0VS153,0VS154,0VS155,0VS156,0VS157,0VS158,0VS159,0VS160,0VS161,0VS162",
     "0VS163,0VS164,0VS165,0VS166,0VS167,0VS168,0VS169,0VS170,0VS171,0VS172,0VS173,0VS174,0VS175",
     "0VS176,0VS177,0VS178,0VS179,0VS180,0VS181,0VS182,0VS183,0VS184,0VS185,0VS186,0VS187,0VS188",
     "0VS189,0VS190,0VS191,0VS192,0VS193,0VS194,0VS195,0VS196,0VS197,0VS198,0VS199,0VS200,0VS201",
     "0VS202,0VS203,0VS204,0VS205,0VS206,0VS207,0VS208,0VS209,0VS210,0VS211,0VS212,0VS213,0VS214",
     "0VS215,0VS216,0VS217,0VS218,0VS219,0VS220,0VS221,0VS222,0VS223,0VS224,0VS225,0VS226,0VS227",
     "0VS228,0VS229,0VS230,0VS231,0VS232,0VS233,0VS234,0VS235,0VS236,0VS237,0VS238,0VS239,0VS240",
     "0VS241,0VS242,0VS243,0VS244,0VS245,0VS246,0VS247,0VS248,0VS249,0VS250,0VS251,0VS252,0VS253",
     "0VS254,0VS255,0VS256"]
  ]

/-- The names that end in the code of the character: how they start, and the characters. -/
def codeNames : List (String × List Range) := [
    ("CJK COMPATIBILITY IDEOGRAPH-", [(0xF900, 0xFA6D), (0xFA70, 0xFAD9), (0x2F800, 0x2FA1D)]),
    ("KHITAN SMALL SCRIPT CHARACTER-", [(0x18B00, 0x18CD5)]),
    ("NUSHU CHARACTER-", [(0x1B170, 0x1B2FB)])
  ]

/-- The unified ideographs. -/
def ideographs : List Range := [
    (0x3400, 0x4DBF), (0x4E00, 0x9FFF), (0x20000, 0x2A6DF), (0x2A700, 0x2B738), (0x2B740, 0x2B81D),
    (0x2B820, 0x2CEA1), (0x2CEB0, 0x2EBE0), (0x30000, 0x3134A)
  ]

/-! ## Hangul -/

namespace Hangul

/-- How the leads are spelled in the name of a syllable. -/
def leadNames : List String := ["G", "GG", "N", "D", "DD", "R", "M", "B", "BB", "S", "SS", "", "J",
  "JJ", "C", "K", "T", "P", "H"]

def vowelNames : List String := ["A", "AE", "YA", "YAE", "EO", "E", "YEO", "YE", "O", "WA", "WAE",
  "OE", "YO", "U", "WEO", "WE", "WI", "YU", "EU", "YI", "I"]

/-- How the tails are spelled, none among them. -/
def tailNames : List String := ["", "G", "GG", "GS", "N", "NJ", "NH", "D", "L", "LG", "LM", "LB",
  "LS", "LT", "LP", "LH", "M", "B", "BS", "S", "SS", "NG", "J", "C", "K", "T", "P", "H"]

/-- The spellings of all syllables in the order of their codes. -/
def syllableNames : List String :=
  leadNames.flatMap fun l => vowelNames.flatMap fun v => tailNames.map fun t => l ++ v ++ t

end Hangul

/-! ## Looking up names -/

def frequentWords : Array String := (frequentWordRows.flatMap (·.splitOn " ")).toArray

/-- A word of the table, written out. -/
def wordOf (s : String) : String :=
  match s.toList with
  | [a, b] =>
    if a.isLower then
      (frequentWords[26 * (a.toNat - 'a'.toNat) + (b.toNat - 'a'.toNat)]?).getD ""
    else s
  | _ => s

/-- A character with the words of one of its names. -/
structure NamedChar where
  code : Nat
  words : List String

/-- The entry of the table behind another, given how it is written. -/
def NamedChar.next (before : NamedChar) (entry : String) : NamedChar :=
  let (code, name) := match entry.splitOn ":" with
    | [code, name] => (hexNumber code, name.toList)
    | _ => (before.code + 1, entry.toList)
  { code
    words := before.words.take (hexNumber (String.ofList (name.take 1)))
      ++ ((String.ofList (name.drop 1)).splitOn " ").map wordOf }

/-- The character that has a name in the table. -/
def listedCode? (words : List String) : Option Nat :=
  ((nameRows.flatten.flatMap (·.splitOn ",")).foldl (fun (found?, before) entry =>
    let c : NamedChar := before.next entry
    (if c.words = words then some c.code else found?, c)) (none, NamedChar.mk 0 [])).1

/-- The code that hexadecimal digits name: four or five capital ones. -/
def namedCode? (cs : List Char) : Option Nat :=
  if (cs.length = 4 || cs.length = 5) && cs.all fun c => c.isDigit || ('A' ≤ c && c ≤ 'F') then
    some (hexNumber (String.ofList cs))
  else none

/-- The code of the character that a name ends in. No zero stands in front of it. -/
def endingCode? (name : List Char) : Option Nat :=
  codeNames.findSome? fun (start, ranges) => do
    let cs ← dropFront? start.toList name
    let n ← namedCode? cs
    if Range.member ranges n && cs.head? != some '0' then some n else none

/-- The code of the character with a name. Small letters count as capitals, but not in the names of
Hangul syllables and unified ideographs. -/
def codeNamed? (name : List Char) : Option Nat :=
  match dropFront? "HANGUL SYLLABLE ".toList name,
      dropFront? "CJK UNIFIED IDEOGRAPH-".toList name with
  | some syllable, _ =>
    (Hangul.syllableNames.findIdx? (· = String.ofList syllable)).map (Hangul.firstSyllable + ·)
  | none, some code => (namedCode? code).filter (Range.member ideographs)
  | none, none =>
    let name := name.map Char.toUpper
    (endingCode? name).or (listedCode? ((String.ofList name).splitOn " "))

end Automation.Text
