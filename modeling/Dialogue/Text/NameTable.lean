/-!
# Names of characters

`frequentWords` are words that occur in many names. `nameRows` lists the names in the order of the
code points, parted by commas. A name begins with the code point, as a hexadecimal number before an
equals sign, unless it is the next one; then come a digit, the number of words that it has in common
with the name before it, and its other words. Two small letters stand for a frequent word.
`otherNameRows` lists further names of characters, each behind its code point.
-/

namespace Dialogue.Text

/-- Words of many names. -/
def frequentWords : List String := [
  "LETTER WITH CAPITAL SMALL ARROW FORM ISOLATED RIGHTWARDS RIGHT ABOVE SIGN DOUBLE LEFTWARDS",
  "VERTICAL TRIANGLE-HEADED INITIAL BELOW FINAL HORIZONTAL STROKE SYMBOL LEFT THREE BLACK",
  "DOWNWARDS HUNDRED THOUSAND MIDDLE WHITE BRACKET CIRCUMFLEX WEST-CREE TRIANGLE GREATER-THAN",
  "AND MARK DIAERESIS HEAVY ARROWHEAD SQUARE CIRCLE UPWARDS REVERSED EIGHT TIMES FOUR LESS-THAN",
  "SEVEN HOOK YPOGEGRAMMENI FIVE PERISPOMENI INVERTED POINTING PUNCTUATION PARENTHESIS MEDIUM",
  "MEDIAL PROSGEGRAMMENI MAKSURA TURNED EQUAL INDEX LIGHT VOWEL ORNAMENT TWO ROTATED TILDE DIGIT",
  "ONE ANUSVARA LOWER MEEM VOCALIC RETROFLEX PLUS DOT RIGHT-POINTING ACUTE DESCENDER HARPOON",
  "SINGLE CANDRABINDU DOWN HALF ASTERISK COMBINING CIRCLED DIAGONAL NINE DEGREES OPERATOR MACRON",
  "NUMBER UPPER FACE THUMB DOTS DASIA EXCLAMATION PSILI OVER CENTRE ALEF LEFT-POINTING LITTLE",
  "EQUILATERAL LARGE GRAVE QUOTATION MOVEMENT-FLOORPLANE RING DIAMOND ANTICLOCKWISE LIGATURE",
  "HAND-FIST BARB MOVEMENT-WALLPLANE CROSSING VARIA SANS-SERIF TRIPLE COMMA ABBREVIATION",
  "MODIFIER VISARGA ZERO BLOCK TRIANGULAR POINTED SQUARED QUESTION INTERSECTION SEVENTY BREVE",
  "OPEN SEPARATOR JEEM QUARTER LONG TWENTY VIRAMA ALTERNATING TONE ALTERNATE CONSONANT ANGLE",
  "ACCENT LATIN SHORT HITTING HAND-CIRCLE SIX DOTTED HIGH NINETY C-SIMPLIFIED UNDERBAR STOP BAR",
  "CEDILLA PALATAL HAND-HINGE NORTH STRAIGHT SUPERSET CLOSED DIGRAPH EQUALS GLOTTAL UPSILON",
  "YENISEI CROSS CARON IDEOGRAPHIC DOWN-POINTING LINE MULTIPLICATION EPSILON SOUTH BOTTOM CORNER",
  "CONJOINED EAST UP-POINTING OXIA DOUBLE-STRUCK EQUIVALENT FINGERS SECTION SOLIDUS STAR YEH",
  "SUPERSCRIPT ORKHON OVERLAY ARCHAION FRACTION INTEGRAL OMEGA KNIGHT NEUTRAL SLANTED TAIL",
  "VARIANT EIGHTH HAMZA KHAH TORTOISE WEST GUNU REVERSE FULL RAISED SUBSET ARABIC-INDIC COPTIC",
  "ALPHA CRYPTOGRAMMIC FIFTY DIALYTIKA AVAGRAHA CHESS HAND-ANGLE IOTIFIED LOW SCRIPT SYLLABLE",
  "ARCHAIC COLON DAGESH CLOCKWISE HAH TEARDROP-SPOKED CROSSED-TAIL DANDA INSULAR MAHAAPRAANA",
  "NEGATIVE OMICRON QUADRANT QUARTERS SIMALUNGUN THIRTY TWO-HEADED HEART BETWEEN FORWARD",
  "ROTATION-FLOORPLANE SMILING CYRILLIC DIAMONDS SEMICOLON TELEPHONE TTHA DASH TEN TENU",
  "ALPAPRAANA DDHA ROTATION-WALLPLANE CURLY MULTIPLE NOON PRECEDES SHADOWED SIGMA SUCCEEDS",
  "QUADRUPLE ARABIC INSIDE EIGHTHS GREEK KATAKANA-HIRAGANA NGA NUKTA OBLIQUE THETA SHA",
  "APOSTROPHE CHARACTERS INDEPENDENT NOTEHEAD SHELL SPOKED DOTLESS LEFT-STEM THROUGH HEARTS HORN",
  "TACK CHA GAMMA KATAKANA NYA SHAFT SPACE CIRCLES CROSSED KHA LOGICAL LOZENGE OVERBAR PRODUCT",
  "ALMOST ARROWS COMPRESSED HINGED LENTICULAR PERSON SAMEKH CHARACTER ITERATION KLYUCHEVAYA",
  "MOUTH FROM HAND IOTA THA BENT CANDRA DELTA DIFFERENTIAL EIGHTY KRYZHEM LAMEDH LENGTH",
  "MATHEMATICAL MUSICAL NEPOSTOYANNAYA NOT OGONEK POVYSHE SHIN SUBSTITUTION TWELFTHS BOLD SHEEN",
  "TONOS ABKHASIAN AMPERSAND BULLET CONTAINING CRESCENTS DIALECT-P EXTENSION INDICATOR MAHAPRANA",
  "SEVENTEEN SPADES THOUSANDS TURNSTILE TWELVE VERTICALLY VERY ZAPYATAYA APPROXIMATELY CARRIER",
  "FIFTEEN LEFT-TO-RIGHT PHA SALTIRE CURVE DOUBLE-LINE EIGHTEEN ENVELOPE FORTY JIHVAMULIYA KAPPA",
  "MINUS OLD PINWHEEL SEEN SIDEWAYS SINGLE-LINE UPADHMANIYA DASHED MOON RISING SIDE SPREAD ALEPH",
  "GHAIN SIXTY SOUND UNION BLACK-LETTER ELEMENT INVERSE NASKAPI NUMERAL ROUNDED SIXTEEN SVARITA",
  "TTA BACKSLASH DDA RECTANGLE SUBSCRIPT BACKHAND BISHOP CENTRALIZATION CONTAINS DHA DIVISION",
  "DODEKATA ELEVEN ELLIPSIS EQUIHOPPER EXTENDED FOURTEEN GIMEL GROMOPOVODNAYA HYPHEN KASKAL",
  "MOUNTAIN MOVEMENT NINETEEN NOTATION OCLOCK OPPOSING OVERLINE PARALLEL QUEEN RIGHT-SHADOWED",
  "SLASH SUBGROUP SVETLAYA TEDUNG THIRTEEN Y-CREE GHA NUN DISH ASH BAMBOOS CEILING",
  "EYEGAZE-WALLPLANE INTERROBANG LARGEST NNA NOTCHED PIEUP-SIOS-TIKEUT SADHE SHADE BHA CURL",
  "CURVED EGYPTOLOGICAL ITALIC LEAF ONE-HUNDRED-AND-SIXTIETH PARENTHESIZED RIGHT-TO-LEFT WAVE",
  "AIRPLANE CLUBS EARTH EXTREMELY EYES FISHHOOK JAPANESE LAMDA MILLIONS OUTLINED PLASTICS",
  "SIXTEENTH SUBJOINED TOP WRINKLED ZAYIN BARRED BESIDE BYELORUSSIAN-UKRAINIAN CANCELLATION",
  "CENTRED CHIEUCH COMMERCIAL DALETH GEMINATION HYPHEN-MINUS J-SIMPLIFIED KHIEUKH LUNATE",
  "MIDDLE-WELSH NORMAL NOTE PHIEUPH RIEUL-KIYEOK RIGHT-FACING SEMICIRCLE SEMIDIRECT SHESHIG SSA",
  "STATERS SUBUNIT THIEUTH TONE-2 TONE-5 VOICED ICHOS KAPYEOUNPHIEUPH KASRA POINT THIRD WATER",
  "BETA FOR HEAD KLYUCHENEPOSTOYANNAYA THE WAW LAM ANTIMONY APPROXIMATE ATTACHED BALLOON-SPOKED",
  "BUBBLE CHECK CRESCENT EKFONITIKON FATHA FATHATAN FILLER FINGER-POST GAN2 HAND-CUP HANGUL",
  "HIRAGANA INFINITY JHA KHOKHLOM KING LAGAB LEFT-FACING LOOP MONOGRAM NIEUN-CIEUC NIEUN-HIEUH",
  "NUBIAN PRIME REST RIEUL-HIEUH RIEUL-MIEUM RIEUL-PIEUP ROUND RTAGS SAYISI SCISSORS SSANGKIYEOK",
  "SSANGTIKEUT THESPIAN THIRDS TONE-3 TRESVETLAYA TWENTY-FIVE WRIST ZAPYATOY FALLING HAND-HOOK",
  "HAND-OVAL KENTIMATA PARAGRAPH SIDDHAM SIMILAR SUBLIMATE TALENTS BETH DVOECHELNOPOVODNAYA",
  "RIEUL-KAPYEOUNPIEUP SHE AIN CLICK HAND-CURLICUE KAPYEOUNMIEUM KAPYEOUNPIEUP MURDA",
  "PERPENDICULAR PRISHTHAMATRA RIEUL-PHIEUPH RIEUL-THIEUTH THIRTY-SECOND TRANSPOSITION TSHEG",
  "ARROW-TAIL ARROWHEADS DRAGON EXTRA-HIGH EYEGAZE-FLOORPLANE FINGER GISH KAPH",
  "KAPYEOUNSSANGPIEUP KIYEOK KOMI LENGTHENER LONSUM MARKER NIKOLSBURG PAIRED PIEUP-SIOS",
  "RIEUL-SIOS SECANT SEQUENTIAL SHAD SILHOUETTE SIMPLIFIED SIXTEENTHS SSANGCIEUC SSANGPIEUP TAK4",
  "TIKEUT ZIGZAG REH ANUDATTA ARMENIAN BARLINE BIRGA BUILDING CARET CIRCULAR CONSTRUCTION",
  "CONTACT CORNERS CURRENCY DAMMA DAMMATAN DIGAMMA DIVIDER DVOECHELNAYA END FLOOR FLOURISH",
  "FRONT-TILTED GEORGIAN HETH HOLDING IDEOGRAM IOTATED IZHITSA KAF KASRATAN KEYBOARD KOET",
  "LOGOGRAM MEASURE MEASURED NASALIZATION NIEUN-TIKEUT ONCOMING ORIGINAL PARTIAL PENTAGON",
  "PIEUP-SIOS-KIYEOK PIEUP-TIKEUT PRESENTATION RIEUL-KIYEOK-SIOS RIEUL-SSANGKIYEOK RIEUL-TIKEUT",
  "RIEUL-YEORINHIEUH RIGHT-SHADED SCHWA SEMICIRCULAR SHAR2 SIXTY-FOURTH TSA TSHA U-SHAPED",
  "UMBRELLA VOLAPUK WORD YODH ZAIN HEH YUS"]

/-- The names of the characters that have no computed name. -/
def nameRows : List String := [
  "20=0ll,0dw bj,0eg bj,0dq ak,0DOLLAR ak,0PERCENT ak,0nd,0ku,0av cd,0ai cd,0di,0cy ak,0et,0sn",
  "0if gd,0hj,0cr ex,1cs,1co,1aw,1bt,1by,1fx,1bv,1br,1dm,0iw,0jt,0bu ak,0gn ak,0bh ak,0fc bj",
  "0sk AT,0ft ac aa A,3B,3C,3D,3E,3F,3G,3H,3I,3J,3K,3L,3M,3N,3O,3P,3Q,3R,3S,3T,3U,3V,3W,3X,3Y,3Z",
  "0av bn bd,0ie hj,0ai bn bd,0be fs,0is gv,0ef fs,0ft ad aa A,3B,3C,3D,3E,3F,3G,3H,3I,3J,3K,3L",
  "3M,3N,3O,3P,3Q,3R,3S,3T,3U,3V,3W,3X,3Y,3Z,0av kc bd,0an gv,0ai kc bd,0cq,a0=0NO-BREAK ll",
  "0ca dw bj,0CENT ak,0POUND ak,0yb ak,0YEN ak,0BROKEN ge,0hi ak,0bk,0COPYRIGHT ak",
  "0FEMININE ORDINAL nj,0eb al fr eg bj,0mt ak,0SOFT py,0REGISTERED ak,0dp,0DEGREE ak",
  "0PLUS-MINUS ak,0hm co,1aw,0db fs,0MICRO ak,0PILCROW ak,0bb cz,0gf,0hm cs",
  "0MASCULINE ORDINAL nj,0da al fr eg bj,0VULGAR hq cs fj,3dh,2aw ji,0ca fc bj,0ft ac aa A ab ef",
  "5db,5be,5cq,5bk,5ei aj,3AE,3C ab gf,3E ab ef,5db,5be,5bk,3I ab ef,5db,5be,5bk,3ETH,3N ab cq",
  "3O ab ef,5db,5be,5cq,5bk,0gw ak,0ft ac aa O ab at,3U ab ef,5db,5be,5bk,3Y ab db,3THORN",
  "1ad aa SHARP S,3A ab ef,5db,5be,5cq,5bk,5ei aj,3AE,3C ab gf,3E ab ef,5db,5be,5bk,3I ab ef,5db",
  "5be,5bk,3ETH,3N ab cq,3O ab ef,5db,5be,5cq,5bk,0pp ak,0ft ad aa O ab at,3U ab ef,5db,5be,5bk",
  "3Y ab db,3THORN,3Y ab bk,1ac aa A ab dp,1ad aa A ab dp,1ac aa A ab ff,1ad aa A ab ff",
  "1ac aa A ab mu,1ad aa A ab mu,1ac aa C ab db,1ad aa C ab db,1ac aa C ab be,1ad aa C ab be",
  "1ac aa C ab cz aj,1ad aa C ab cz aj,1ac aa C ab gs,1ad aa C ab gs,1ac aa D ab gs",
  "1ad aa D ab gs,1ac aa D ab at,1ad aa D ab at,1ac aa E ab dp,1ad aa E ab dp,1ac aa E ab ff",
  "1ad aa E ab ff,1ac aa E ab cz aj,1ad aa E ab cz aj,1ac aa E ab mu,1ad aa E ab mu",
  "1ac aa E ab gs,1ad aa E ab gs,1ac aa G ab be,1ad aa G ab be,1ac aa G ab ff,1ad aa G ab ff",
  "1ac aa G ab cz aj,1ad aa G ab cz aj,1ac aa G ab gf,1ad aa G ab gf,1ac aa H ab be",
  "1ad aa H ab be,1ac aa H ab at,1ad aa H ab at,1ac aa I ab cq,1ad aa I ab cq,1ac aa I ab dp",
  "1ad aa I ab dp,1ac aa I ab ff,1ad aa I ab ff,1ac aa I ab mu,1ad aa I ab mu,1ac aa I ab cz aj",
  "1ad aa la I,1ac el IJ,1ad el IJ,1ac aa J ab be,1ad aa J ab be,1ac aa K ab gf,1ad aa K ab gf",
  "3KRA,1ac aa L ab db,1ad aa L ab db,1ac aa L ab gf,1ad aa L ab gf,1ac aa L ab gs",
  "1ad aa L ab gs,1ac aa L ab bb cz,1ad aa L ab bb cz,1ac aa L ab at,1ad aa L ab at",
  "1ac aa N ab db,1ad aa N ab db,1ac aa N ab gf,1ad aa N ab gf,1ac aa N ab gs,1ad aa N ab gs",
  "4PRECEDED BY ku,1ac aa ENG,1ad aa ENG,1ac aa O ab dp,1ad aa O ab dp,1ac aa O ab ff",
  "1ad aa O ab ff,1ac aa O ab al db,1ad aa O ab al db,1ac el OE,1ad el OE,1ac aa R ab db",
  "1ad aa R ab db,1ac aa R ab gf,1ad aa R ab gf,1ac aa R ab gs,1ad aa R ab gs,1ac aa S ab db",
  "1ad aa S ab db,1ac aa S ab be,1ad aa S ab be,1ac aa S ab gf,1ad aa S ab gf,1ac aa S ab gs",
  "1ad aa S ab gs,1ac aa T ab gf,1ad aa T ab gf,1ac aa T ab gs,1ad aa T ab gs,1ac aa T ab at",
  "1ad aa T ab at,1ac aa U ab cq,1ad aa U ab cq,1ac aa U ab dp,1ad aa U ab dp,1ac aa U ab ff",
  "1ad aa U ab ff,1ac aa U ab ei aj,1ad aa U ab ei aj,1ac aa U ab al db,1ad aa U ab al db",
  "1ac aa U ab mu,1ad aa U ab mu,1ac aa W ab be,1ad aa W ab be,1ac aa Y ab be,1ad aa Y ab be",
  "1ac aa Y ab bk,3Z ab db,1ad aa Z ab db,1ac aa Z ab cz aj,1ad aa Z ab cz aj,1ac aa Z ab gs",
  "1ad aa Z ab gs,3fk S,3B ab at,1ac aa B ab bw,5TOPBAR,1ad aa B ab TOPBAR,1ac aa fo fx",
  "1ad aa fo fx,1ac aa fg O,3C ab bw,1ad aa C ab bw,1ac aa AFRICAN D,3D ab bw,5TOPBAR",
  "1ad aa D ab TOPBAR,3ci mk,1ac aa bq E,3zm,3fg E,3F ab bw,1ad aa F ab bw,1ac aa G ab bw,3lh",
  "1ad aa HV,1ac aa mg,3I ab at,3K ab bw,1ad aa K ab bw,3L ab ge,3LAMBDA ab at,1ac aa ci M",
  "3N ab av bw,1ad aa N ab fk ai LEG,1ac aa O ab bb cq,5le,1ad aa O ab le,1ac aa OI,1ad aa OI",
  "1ac aa P ab bw,1ad aa P ab bw,1aa YR,1ac aa fo co,1ad aa fo co,1ac aa ESH,1aa bq ESH uq",
  "1ad aa T ab gg bw,1ac aa T ab bw,1ad aa T ab bw,1ac aa T ab cx bw,3U ab le,1ad aa U ab le",
  "1ac aa gp,3V ab bw,3Y ab bw,1ad aa Y ab bw,1ac aa Z ab at,1ad aa Z ab at,1ac aa EZH,4bq",
  "1ad aa EZH bq,4ab hw,1aa co ab at,1ac aa fo by,1ad aa fo by,1aa ca go gd ab at,2WYNN",
  "2DENTAL wb,2LATERAL wb,2ALVEOLAR wb,2cx wb,1ac aa DZ ab gs,3D ab ad aa Z ab gs",
  "1ad aa DZ ab gs,1ac aa LJ,3L ab ad aa J,1ad aa LJ,1ac aa NJ,3N ab ad aa J,1ad aa NJ",
  "1ac aa A ab gs,1ad aa A ab gs,1ac aa I ab gs,1ad aa I ab gs,1ac aa O ab gs,1ad aa O ab gs",
  "1ac aa U ab gs,1ad aa U ab gs,1ac aa U ab bk bi dp,1ad aa U ab bk bi dp,1ac aa U ab bk bi db",
  "1ad aa U ab bk bi db,1ac aa U ab bk bi gs,1ad aa U ab bk bi gs,1ac aa U ab bk bi ef",
  "1ad aa U ab bk bi ef,3ci E,1ac aa A ab bk bi dp,1ad aa A ab bk bi dp,1ac aa A ab cz aj bi dp",
  "1ad aa A ab cz aj bi dp,1ac aa AE ab dp,1ad aa AE ab dp,1ac aa G ab at,1ad aa G ab at",
  "1ac aa G ab gs,1ad aa G ab gs,1ac aa K ab gs,1ad aa K ab gs,1ac aa O ab mu,1ad aa O ab mu",
  "1ac aa O ab mu bi dp,1ad aa O ab mu bi dp,1ac aa EZH ab gs,1ad aa EZH ab gs,3J ab gs",
  "1ac aa DZ,3D ab ad aa Z,1ad aa DZ,1ac aa G ab db,1ad aa G ab db,1ac aa HWAIR,3WYNN,3N ab ef",
  "1ad aa N ab ef,1ac aa A ab ei aj bi db,1ad aa A ab ei aj bi db,1ac aa AE ab db",
  "1ad aa AE ab db,1ac aa O ab at bi db,1ad aa O ab at bi db,1ac aa A ab al ef,1ad aa A ab al ef",
  "1ac aa A ab ca ff,1ad aa A ab ca ff,1ac aa E ab al ef,1ad aa E ab al ef,1ac aa E ab ca ff",
  "1ad aa E ab ca ff,1ac aa I ab al ef,1ad aa I ab al ef,1ac aa I ab ca ff,1ad aa I ab ca ff",
  "1ac aa O ab al ef,1ad aa O ab al ef,1ac aa O ab ca ff,1ad aa O ab ca ff,1ac aa R ab al ef",
  "1ad aa R ab al ef,1ac aa R ab ca ff,1ad aa R ab ca ff,1ac aa U ab al ef,1ad aa U ab al ef",
  "1ac aa U ab ca ff,1ad aa U ab ca ff,1ac aa S ab et aq,1ad aa S ab et aq,1ac aa T ab et aq",
  "1ad aa T ab et aq,1ac aa YOGH,1ad aa YOGH,1ac aa H ab gs,1ad aa H ab gs,1ac aa N ab fk ai LEG",
  "1ad aa D ab rf,1ac aa OU,1ad aa OU,1ac aa Z ab bw,1ad aa Z ab bw,1ac aa A ab cz aj",
  "1ad aa A ab cz aj,1ac aa E ab gf,1ad aa E ab gf,1ac aa O ab bk bi dp,1ad aa O ab bk bi dp",
  "1ac aa O ab cq bi dp,1ad aa O ab cq bi dp,1ac aa O ab cz aj,1ad aa O ab cz aj",
  "1ac aa O ab cz aj bi dp,1ad aa O ab cz aj bi dp,1ac aa Y ab dp,1ad aa Y ab dp,3L ab rf",
  "3N ab rf,3T ab rf,3la J,3DB gm,3QP gm,1ac aa A ab at,3C ab at,1ad aa C ab at,1ac aa L ab ge",
  "3T ab dl at,1ad aa S ab SWASH hw,3Z ab SWASH hw,1ac aa go gd,1ad aa go gd,1ac aa B ab at",
  "3U ge,3ci V,3E ab at,1ad aa E ab at,1ac aa J ab at,1ad aa J ab at,1ac aa ad Q ab bw hw",
  "1ad aa Q ab bw hw,1ac aa R ab at,1ad aa R ab at,1ac aa Y ab at,1ad aa Y ab at,3ci A,3ik",
  "3ci ik,3B ab bw,3fg O,3C ab rf,3D ab hw,5bw,3bq E,3zm,4ab bw,3fg E,3bq fg E,6ab bw",
  "3gl bq fg E,3la J ab at,3G ab bw,3it G,1aa ad ac G,1ad aa lh,3RAMS le,3ci H,3H ab bw",
  "3HENG ab bw,3I ab at,3mg,1aa ad ac I,1ad aa L ab bb cq,5BELT,5cx bw,3LEZH,3ci M,5ab fk LEG",
  "3M ab bw,3N ab av bw,5cx bw,1aa ad ac N,1ad aa se O,1aa ad ac OE,1ad aa gl hs,3PHI,3ci R",
  "5ab fk LEG,6bw,3R ab fk LEG,5hw,5rt,3bq R ab rt,1aa ad ac R,4ca R,1ad aa S ab bw,3ESH",
  "3la J ab at bi bw,3SQUAT bq ESH,3ESH ab rf,3ci T,3T ab cx bw,3U ge,3gp,3V ab bw,3ci V,4W,4Y",
  "1aa ad ac Y,1ad aa Z ab cx bw,5rf,3EZH,4ab rf,1aa go gd,2PHARYNGEAL tg FRICATIVE,2ca go gd",
  "2STRETCHED C,2BILABIAL wb,2ad ac B,1ad aa gl fg E,1aa ad ac G ab bw,4H,1ad aa J ab jb,3ci K",
  "1aa ad ac L,1ad aa Q ab bw,1aa go gd ab at,2bq go gd ab at,1ad aa DZ gm,3DEZH gm,3DZ gm ab rf",
  "3TS gm,3TESH gm,3TC gm ab rf,3FENG gm,3LS gm,3LZ gm,1aa BILABIAL PERCUSSIVE",
  "2BIDENTAL PERCUSSIVE,1ad aa ci H ab rt,7bi hw,0ev aa ad H,4ab bw,3J,3R,3ci R,5ab bw,3ac ca R",
  "3W,3Y,2uv,2al uv,2ci et,2ku,2bq et,2ai dh ei,2av dh ei,2go gd,2bq go gd,2av bm,2ai bm,2UP bm",
  "2dg bm,2be fs,0gs,0ev aa an gv,2dp,2db fs,2ef fs,2is an gv,3dp,3ef fs,3db fs,2ez iw,2dh ez iw",
  "2si ai dh ei,3av dh ei,2UP lf,2dg lf,2cy ak,2og ak,0ff,0cz aj,0ei aj,0mu,0ad cq,0al db fs",
  "0ev aa RHOTIC bw,2gr fs,2ad lh,3L,3S,3X,3bq go gd,2wq fo ge,2fz fo ge,2MID fo ge,2is fo ge",
  "2EXTRA-LOW fo ge,2YIN DEPARTING fo bj,2YANG DEPARTING fo bj,2VOICING,2UNASPIRATED,2al ku",
  "2is dg bm,3UP bm,3av bm,3ai bm,3ei,2bb ef fs,3al ef fs,4db fs,2is cq,2ig iw,2BEGIN fz fo",
  "2yh fz fo,2BEGIN is fo,2yh is fo,2SHELF,2fg SHELF,2is av ae,0dj ef fs,1db fs,1be fs,1cq,1dp",
  "1qg,1ff,1cz aj,1bk,1bw aj,1ei aj,1al db fs,1gs,1an gv aj,1al an gv aj,2ef fs,1df,1ca ff",
  "1ci et aj,1et aj,1bq et aj,1et aj ai,1ef fs aq,1db fs aq,1av lf aq,1ai lf aq,1av fr aj,1le",
  "1av dh ei aq,1UP lf aq,1dg lf aq,1cy ak aq,1og ak aq,1PALATALIZED bw aq,1cx bw aq,1cz aq",
  "1bk aq,1ei aq,1et aq,1gf,1mu,1an gv aq,1BRIDGE aq,1ca al ARCH aq,1gs aq,1be fs aq,1ff aq",
  "1ca ff aq,1cq aq,1dp aq,1is gv,1al is gv,1cq ho,1fu at ho,1fk at ho,1fu hj ho,1fk hj ho",
  "1ai dh ei aq,1ca BRIDGE aq,1bn aq,1SEAGULL aq,1X aj,1an cq,1al qg,1ef fo bj,1db fo bj,1kn bz",
  "2KORONIS,2in nb,2bx,1BRIDGE aj,1gn ak aq,1al an gv aq,1av fr aq,1mt cq aj,1HOMOTHETIC aj",
  "1lt cj TO aj,1av ai ae aq,1bp ae aq,1GRAPHEME JOINER,1ai bm aj,1av dh ei aj,1FERMATA,1X aq",
  "1av bm aq,1ai bm aq,3bi UP bm aq,2dh ei aj,1cz aj ai,1di aq,1al ei aq,1xp aj,1al ff aq,3,2dp",
  "3aq,2cq,2ca ff,2ah ae aq,1ft ad aa A,4E,4I,4O,4U,4C,4D,4H,4M,4R,4T,4V,4X,0kn ac aa HETA",
  "1ad aa HETA,1ac aa iv SAMPI,1ad aa iv SAMPI,1pb ak,1cu pb ak,1ac aa PAMPHYLIAN ye",
  "1ad aa PAMPHYLIAN ye,37a=1bx,1ad bq sq kh au,2fy sq kh au,2bq fy sq kh au,1fc bj,1ac aa YOT",
  "384=1nb,1in nb,1ac aa ik ab nb,1ANO TELEIA,1ac aa gx ab nb,3ETA ab nb,3mg ab nb,38c=3jg ab nb",
  "38e=3gp ab nb,3hs ab nb,1ad aa mg ab in bi nb,1ac aa ik,3tn,3lh,3mk,3gx,3ZETA,3ETA,3ks,3mg",
  "3of,3rv,3MU,3NU,3XI,3jg,3PI,3RHO,3a3=3kh,3TAU,3gp,3PHI,3CHI,3PSI,3hs,3mg ab in,3gp ab in",
  "1ad aa ik ab nb,3gx ab nb,3ETA ab nb,3mg ab nb,3gp ab in bi nb,3ik,3tn,3lh,3mk,3gx,3ZETA,3ETA",
  "3ks,3mg,3of,3rv,3MU,3NU,3XI,3jg,3PI,3RHO,3ar kh,3kh,3TAU,3gp,3PHI,3CHI,3PSI,3hs,3mg ab in",
  "3gp ab in,3jg ab nb,3gp ab nb,3hs ab nb,1ac KAI au,1tn au,1ks au,1gp ab bw au,3db bi bw au",
  "3bk bi bw au,1PHI au,1PI au,1KAI au,1aa iv KOPPA,1ad aa iv KOPPA,1aa STIGMA,1ad aa STIGMA",
  "1aa ye,1ad aa ye,1aa KOPPA,1ad aa KOPPA,1aa SAMPI,1ad aa SAMPI,0ij ac aa SHEI,1ad aa SHEI",
  "1ac aa FEI,1ad aa FEI,1ac aa KHEI,1ad aa KHEI,1ac aa HORI,1ad aa HORI,1ac aa GANGIA",
  "1ad aa GANGIA,1ac aa SHIMA,1ad aa SHIMA,1ac aa DEI,1ad aa DEI,0kn of au,1RHO au,1sq kh au",
  "1aa YOT,1ac ks au,1sq gx au,1bq sq gx au,1ac aa SHO,1ad aa SHO,1ac sq kh au,2aa SAN",
  "1ad aa SAN,1RHO ab at au,1ac bq sq kh au,2fy sq kh au,2bq fy sq kh au,0jr ac aa IE ab ef,3IO",
  "3DJE,3GJE,3UKRAINIAN IE,3DZE,3sg I,3YI,3JE,3LJE,3NJE,3TSHE,3KJE,3I ab ef,3fu U,3DZHE,3A,3BE",
  "3VE,3GHE,3DE,3IE,3ZHE,3ZE,3I,3fu I,3KA,3EL,3EM,3EN,3O,3PE,3ER,3ES,3TE,3U,3EF,3HA,3TSE,3CHE",
  "3kt,3SHCHA,3HARD ak,3YERU,3SOFT ak,3E,3YU,3YA,1ad aa A,3BE,3VE,3GHE,3DE,3IE,3ZHE,3ZE,3I,3fu I",
  "3KA,3EL,3EM,3EN,3O,3PE,3ER,3ES,3TE,3U,3EF,3HA,3TSE,3CHE,3kt,3SHCHA,3HARD ak,3YERU,3SOFT ak,3E",
  "3YU,3YA,3IE ab ef,3IO,3DJE,3GJE,3UKRAINIAN IE,3DZE,3sg I,3YI,3JE,3LJE,3NJE,3TSHE,3KJE",
  "3I ab ef,3fu U,3DZHE,1ac aa hs,1ad aa hs,1ac aa YAT,1ad aa YAT,1ac aa ir E,1ad aa ir E",
  "1ac aa ec zz,1ad aa ec zz,1ac aa ir ec zz,1ad aa ir ec zz,1ac aa BIG zz,1ad aa BIG zz",
  "1ac aa ir BIG zz,1ad aa ir BIG zz,1ac aa KSI,1ad aa KSI,1ac aa PSI,1ad aa PSI,1ac aa FITA",
  "1ad aa FITA,1ac aa yq,1ad aa yq,1ac aa yq ab al ef fs,1ad aa yq ab al ef fs,1ac aa UK",
  "1ad aa UK,1ac aa va hs,1ad aa va hs,1ac aa hs ab TITLO,1ad aa hs ab TITLO,1ac aa OT,1ad aa OT",
  "1ac aa KOPPA,1ad aa KOPPA,1nn ak,0dj jr TITLO,2PALATALIZATION,2dv PNEUMATA,2dx PNEUMATA",
  "2POKRYTIE,2az nn ak,2rw ak,0jr ac aa fu I ab hw,1ad aa fu I ab hw,1ac aa SEMISOFT ak",
  "1ad aa SEMISOFT ak,1ac aa ER ab TICK,1ad aa ER ab TICK,1ac aa GHE ab UPTURN",
  "1ad aa GHE ab UPTURN,1ac aa GHE ab at,1ad aa GHE ab at,1ac aa GHE ab bb bw",
  "1ad aa GHE ab bb bw,1ac aa ZHE ab dc,1ad aa ZHE ab dc,1ac aa ZE ab dc,1ad aa ZE ab dc",
  "1ac aa KA ab dc,1ad aa KA ab dc,1ac aa KA ab an at,1ad aa KA ab an at,1ac aa KA ab at",
  "1ad aa KA ab at,1ac aa BASHKIR KA,1ad aa BASHKIR KA,1ac aa EN ab dc,1ad aa EN ab dc",
  "1ac el EN GHE,1ad el EN GHE,1ac aa PE ab bb bw,1ad aa PE ab bb bw,1ac aa nc HA,1ad aa nc HA",
  "1ac aa ES ab dc,1ad aa ES ab dc,1ac aa TE ab dc,1ad aa TE ab dc,1ac aa gj U,1ad aa gj U",
  "1ac aa gj U ab at,1ad aa gj U ab at,1ac aa HA ab dc,1ad aa HA ab dc,1ac el TE TSE",
  "1ad el TE TSE,1ac aa CHE ab dc,1ad aa CHE ab dc,1ac aa CHE ab an at,1ad aa CHE ab an at",
  "1ac aa SHHA,1ad aa SHHA,1ac aa nc CHE,1ad aa nc CHE,1ac aa nc CHE ab dc,1ad aa nc CHE ab dc",
  "1aa PALOCHKA,1ac aa ZHE ab ff,1ad aa ZHE ab ff,1ac aa KA ab bw,1ad aa KA ab bw",
  "1ac aa EL ab hw,1ad aa EL ab hw,1ac aa EN ab bw,1ad aa EN ab bw,1ac aa EN ab hw",
  "1ad aa EN ab hw,1ac aa KHAKASSIAN CHE,1ad aa KHAKASSIAN CHE,1ac aa EM ab hw,1ad aa EM ab hw",
  "3PALOCHKA,1ac aa A ab ff,1ad aa A ab ff,1ac aa A ab bk,1ad aa A ab bk,1ac el A IE,1ad el A IE",
  "1ac aa IE ab ff,1ad aa IE ab ff,1ac aa zm,1ad aa zm,1ac aa zm ab bk,1ad aa zm ab bk",
  "1ac aa ZHE ab bk,1ad aa ZHE ab bk,1ac aa ZE ab bk,1ad aa ZE ab bk,1ac aa nc DZE,1ad aa nc DZE",
  "1ac aa I ab dp,1ad aa I ab dp,1ac aa I ab bk,1ad aa I ab bk,1ac aa O ab bk,1ad aa O ab bk",
  "1ac aa se O,1ad aa se O,1ac aa se O ab bk,1ad aa se O ab bk,1ac aa E ab bk,1ad aa E ab bk",
  "1ac aa U ab dp,1ad aa U ab dp,1ac aa U ab bk,1ad aa U ab bk,1ac aa U ab al db",
  "1ad aa U ab al db,1ac aa CHE ab bk,1ad aa CHE ab bk,1ac aa GHE ab dc,1ad aa GHE ab dc",
  "1ac aa YERU ab bk,1ad aa YERU ab bk,1ac aa GHE ab at bi bw,1ad aa GHE ab at bi bw",
  "1ac aa HA ab bw,1ad aa HA ab bw,1ac aa HA ab at,1ad aa HA ab at,1ac aa wx DE,1ad aa wx DE",
  "1ac aa wx DJE,1ad aa wx DJE,1ac aa wx ZJE,1ad aa wx ZJE,1ac aa wx DZJE,1ad aa wx DZJE",
  "1ac aa wx LJE,1ad aa wx LJE,1ac aa wx NJE,1ad aa wx NJE,1ac aa wx SJE,1ad aa wx SJE",
  "1ac aa wx TJE,1ad aa wx TJE,1ac aa bq ZE,1ad aa bq ZE,1ac aa EL ab bw,1ad aa EL ab bw",
  "1ac aa LHA,1ad aa LHA,1ac aa RHA,1ad aa RHA,1ac aa YAE,1ad aa YAE,1ac aa QA,1ad aa QA",
  "1ac aa WE,1ad aa WE,1ac aa ALEUT KA,1ad aa ALEUT KA,1ac aa EL ab bb bw,1ad aa EL ab bb bw",
  "1ac aa EN ab bb bw,1ad aa EN ab bb bw,1ac aa PE ab dc,1ad aa PE ab dc,1ac aa SHHA ab dc",
  "1ad aa SHHA ab dc,1ac aa EN ab av bw,1ad aa EN ab av bw,1ac aa DZZHE,1ad aa DZZHE,1ac aa DCHE",
  "1ad aa DCHE,1ac aa EL ab dc,1ad aa EL ab dc,531=0xs ac aa AYB,3BEN,3GIM,3DA,3ECH,3ZA,3EH,3ET",
  "3TO,3ZHE,3INI,3LIWN,3XEH,3CA,3KEN,3HO,3JA,3GHAD,3CHEH,3MEN,3YI,3NOW,3kt,3VO,3lg,3PEH,3JHEH",
  "3RA,3SEH,3VEW,3TIWN,3xq,3CO,3YIWN,3PIWR,3KEH,3OH,3FEH,559=1ev aa av dh ei,1ku,1EMPHASIS bj",
  "1dw bj,1et,1fc bj,1eu bj,1ad aa ci AYB,3AYB,3BEN,3GIM,3DA,3ECH,3ZA,3EH,3ET,3TO,3ZHE,3INI",
  "3LIWN,3XEH,3CA,3KEN,3HO,3JA,3GHAD,3CHEH,3MEN,3YI,3NOW,3kt,3VO,3lg,3PEH,3JHEH,3RA,3SEH,3VEW",
  "3TIWN,3xq,3CO,3YIWN,3PIWR,3KEH,3OH,3FEH,2el ECH YIWN,2aa YI ab at,1if gd,1py",
  "58d=0sw xs ETERNITY ak,0up xs ETERNITY ak,0xs DRAM ak,591=0HEBREW fs ETNAHTA,2SEGOL",
  "2SHALSHELET,2ZAQEF QATAN,3GADOL,2TIPEHA,2REVIA,2ZARQA,2PASHTA,2YETIV,2TEVIR,2GERESH,3MUQDAM",
  "2GERSHAYIM,2QARNEY PARA,2TELISHA GEDOLA,2PAZER,2ATNAH HAFUKH,2MUNAH,2MAHAPAKH,2MERKHA,3KEFULA",
  "2DARGA,2QADMA,2TELISHA QETANA,2YERAH BEN YOMO,2OLE,2ILUY,2DEHI,2ZINOR,1bj MASORA bo,1tk SHEVA",
  "2HATAF SEGOL,3PATAH,3QAMATS,2HIRIQ,2TSERE,2SEGOL,2PATAH,2QAMATS,2HOLAM,3HASER to VAV,2QUBUTS",
  "2ix OR MAPIQ,2METEG,1cc MAQAF,1tk RAFE,1cc PASEQ,1tk mw cz,2SIN cz,1cc SOF PASUQ,1bj dr cz",
  "2cu cz,1cc qr HAFUKHA,1tk QAMATS QATAN,5d0=1aa ea,2BET,2pw,2DALET,2HE,2VAV,2sd,2HET,2TET,2YOD",
  "2ar yr,2yr,2LAMED,2ar MEM,2MEM,2ar qr,2qr,2lz,2AYIN,2ar PE,2PE,2ar TSADI,2TSADI,2QOF,2RESH",
  "2mw,2TAV,5ef=1YOD bg,1el YIDDISH al VAV,3VAV YOD,3al YOD,1cc GERESH,2GERSHAYIM,600=0kk dq ak",
  "1ak SANAH,1FOOTNOTE xa,1ak SAFHA,2SAMVAT,1dq bj aj,0ii CUBE ROOT,1FOURTH ROOT,0kk RAY",
  "0ii PER MILLE ak,2jx ba ak,0AFGHANI ak,0kk et,1DATE fh,1POETIC VERSE ak,1ak MISRA",
  "2SALLALLAHOU ALAYHE WASSALLAM,2ALAYHE ASSALLAM,2RAHMATULLAH ALAYHE,2RADI ALLAHOU ANHU",
  "2TAKHALLUS,1ad fz TAH,3el ea ab tt ab hl,3zx,2uc,2yc,2tj,1jt,1aa bj,1yh OF TEXT bj",
  "1es cz cc bj,1fc bj,1aa KASHMIRI hl,2hz,2ea ab MADDA aj,4hz aj,2ts ab hz aj,2ea ab hz aq",
  "2hl ab hz aj,2ea,2BEH,2TEH MARBUTA,3,2THEH,2fi,2iz,2ia,2DAL,2THAL,2xq,2zx,2oj,2na,2SAD,2DAD",
  "2TAH,2ZAH,2wa,2ot,2KEHEH ab co du aj,4aw du aq,2FARSI hl ab ca V,5co du aj,5aw du aj,1TATWEEL",
  "1aa FEH,2QAF,2yr,2tt,2cv,2ke,2zy,2ts,2ea ch,2hl,1ud,1yd,1ys,1uc,1yc,1tj,1SHADDA,1SUKUN",
  "1MADDAH aj,1hz aj,2aq,1pj ea,1ca yc,1bj ke GHUNNA,1ZWARAKAY,1cm ak ad V aj,3ca ad V aj,3cz aq",
  "1bq yc,1uc ab co du,1WAVY hz aq,0ii cr ex,2cs,2co,2aw,2bt,2by,2fx,2bv,2br,2dm,0kk PERCENT ak",
  "1DECIMAL fh,1nn fh,1by fa hk,1aa la BEH,3QAF,2hm ea,2ea WASLA,3ab WAVY hz aj,6aq,2fz hz,4ea",
  "4ts,2U ab hz aj,2fz hz hl,2TTEH,2TTEHEH,2BEEH,2TEH ab ei,4aw du aj ay,2PEH,2TEHEH,2BEHEH",
  "2iz ab hz aj,4co du an aj,2NYEH,2DYEH,2iz ab aw du aj,2TCHEH,2TCHEHEH,2DDAL,2DAL ab ei,4cz aq",
  "6bi ad TAH,2DAHAL,2DDAHAL,2DUL,2DAL ab aw du aj ay,4bt du aj,2RREH,2xq ab ad V,4ei,4cz aq",
  "4ad V aq,4cz aq bi cz aj,4co du aj,2JEH,2xq ab bt du aj,2oj ab cz aq bi cz aj,4aw du aq",
  "7bi aw du aj,2SAD ab co du aq,4aw du aj,2TAH ab aw du aj,2wa ab aw du aj,2la FEH",
  "2FEH ab cz MOVED aq,5aq,2VEH,2FEH ab aw du aq,2PEHEH,2QAF ab cz aj,4aw du aj,2KEHEH,2SWASH yr",
  "2yr ab ei,4cz aj,2NG,2yr ab aw du aq,2GAF,3ab ei,2NGOEH,2GAF ab co du aq,2GUEH",
  "2GAF ab aw du aj,2tt ab ad V,4cz aj,4aw du aj,6aq,2ke ab cz aq,3GHUNNA,2RNOON,2ke ab ei",
  "4aw du aj,2zy DOACHASHMEE,2TCHEH ab cz aj,2zy ab hl aj,3GOAL,4ab hz aj,2TEH MARBUTA GOAL",
  "2ts ab ei,2KIRGHIZ OE,2OE,2U,2YU,2KIRGHIZ YU,2ts ab co du aj,2VE,2FARSI hl,2hl ab hw,4ad V",
  "2ts ab cz aj,2E,2hl ab aw du aq,3BARREE,4ab hz aj,1if gd,1aa AE,1ad fz el SAD ab tt ab ea ch",
  "4QAF ab tt ab ea ch,3cv ap af,3tt ea,3fi,3aw du,3oj,1yh OF AYAH,1START OF RUB EL HIZB",
  "1ad fz pc ex,3UPRIGHT RECTANGULAR ex,3la tp OF ia,3cv ag af,2is oj,2fz MADDA,2ts,2hl,2fz hl",
  "3ke,1PLACE OF SAJDAH,1EMPTY dz is gd,3fz gd,1pc fz gd ab FILLED dz,1ad is cv,1aa DAL ab ca V",
  "2xq ab ca V,0pu ii cr ex,3cs,3co,3aw,3bt,3by,3fx,3bv,3br,3dm,0kk aa na ab cz aq,2DAD ab cz aq",
  "2ot ab cz aq,1ak SINDHI nd,3POSTPOSITION MEN,1aa zy ab ca V,0SYRIAC yh OF vr",
  "1SUPRALINEAR if gd,1SUBLINEAR if gd,1SUPRALINEAR iw,1SUBLINEAR iw,1as iw,1iw SKEWED av,3ai",
  "1SUPRALINEAR iw SKEWED av,1SUBLINEAR iw SKEWED ai,1CONTRACTION,1HARKLEAN OBELUS,2METOBELUS",
  "2ASTERISCUS,70f=1eu bj,1aa ALAPH,2hm ALAPH,2vw,2GAMAL,3GARSHUNI,2DALATH,2la DALATH RISH,2HE",
  "2ts,2zx,2ym,2TETH,3GARSHUNI,2YUDH,3HE,2wu,2LAMADH,2MIM,2qr,2SEMKATH,2ar SEMKATH,2E,2PE,2bq PE",
  "2rc,2QAPH,2RISH,2mw,2TAW,2PERSIAN BHETH,3GHAMAL,3DHALATH,1PTHAHA aj,2aq,2fy,1ZQAPHA aj,2aq",
  "2fy,1RBASA aj,2aq,1fy ZLAMA as,3ANGULAR,1HBASA aj,2aq,1HBASA-ESASA fy,1ESASA aj,2aq,1RWAHA",
  "1FEMININE cz,1QUSHSHAYA,1RUKKAKHA,1co an du aj,4aq,1aw du aj,3aq,1kr gv aj,3aq,1MUSIC",
  "1BARREKH,74d=1aa SOGDIAN ZHAIN,3KHAPH,3FE,0kk aa BEH ab aw du HORIZONTALLY aq",
  "4cz aq bi aw du aj,4aw du cb bp aq,9bi co du aj,4co du aq bi cz aj,4ca ad V aq,4ad V",
  "2iz ab co du aj,4aw du cb bp aq,2DAL ab co du nq aq bi ad TAH,4ca ad V aq,2xq ab at",
  "2oj ab bt du aj,2wa ab co du aj,4aw du cb ay aj,4co du nq aj,2FEH ab co du aq,4aw du cb bp aq",
  "2KEHEH ab cz aj,4aw du aj,6cb bp aq,2cv ab cz aj,5aq,2ke ab co du aq,4ad TAH,5V,2tt ab ge",
  "2xq ab co du nq aj,4hz aj,2oj ab co du nq aj,2iz ab ad kk aa TAH aq,8bi co du",
  "2oj ab ad kk aa TAH bi co du,2xq ab ad kk aa TAH bi co du,2iz ab ad kk aa TAH aj",
  "2ea ab pu ii cr co aj,7aw aj,2FARSI hl ab pu ii cr co aj,8aw aj,8bt aq,2ts ab pu ii cr co aj",
  "7aw aj,2hl BARREE ab pu ii cr co aj,8aw aj,2iz ab pu ii cr bt aq,2oj ab pu ii cr bt aj,4ca V",
  "2yr ab co du aj,0THAANA aa HAA,2SHAVIYANI,2NOONU,2RAA,2BAA,2LHAVIYANI,2KAAFU,2ALIFU,2VAAVU",
  "2MEEMU,2FAAFU,2DHAALU,2THAA,2LAAMU,2GAAFU,2GNAVIYANI,2SEENU,2DAVIYANI,2ZAVIYANI,2TAVIYANI",
  "2YAA,2PAVIYANI,2JAVIYANI,2CHAVIYANI,2TTAA,2HHAA,2KHAA,2THAALU,2ZAA,2SHEENU,2SAADHU,2DAADHU",
  "2TO,2ZO,2AINU,2GHAINU,2QAAFU,2WAAVU,1ABAFILI,1AABAAFILI,1IBIFILI,1EEBEEFILI,1UBUFILI",
  "1OOBOOFILI,1EBEFILI,1EYBEYFILI,1OBOFILI,1OABOAFILI,1SUKUN,1aa NAA,7c0=0NKO cr ex,2cs,2co,2aw",
  "2bt,2by,2fx,2bv,2br,2dm,1aa A,2EE,2I,2E,2U,2OO,2O,2DAGBASINNA,2N,2BA,2PA,2TA,2JA,2lg,2DA,2RA",
  "2RRA,2SA,2GBA,2FA,2KA,2LA,2NA WOLOSO,2MA,2lj,2NA,2HA,2WA,2YA,2lj WOLOSO,2JONA JA,3lg,3RA",
  "1dj fu fz fo,3is fo,3op fo,2fk DESCENDING fo,3fz fo,3is fo,3op fo,2yy bj,2al cz aj,1fz fo ku",
  "1is fo ku,1au OO DENNEN,2GBAKURUNEN,1et,1dw bj,1LAJANYALAN,7fd=1DANTAYALAN,1DOROME ak",
  "1TAMAN ak,0SAMARITAN aa ALAF,2BIT,2GAMAN,2DALAT,2IY,2BAA,2ZEN,2IT,2TIT,2YUT,2KAAF,2LABAT,2MIM",
  "2qr,2SINGAAT,2IN,2FI,2TSAADIY,2QUF,2RISH,2SHAN,2TAAF,1bj IN,2IN-ALAF,2OCCLUSION,2ix",
  "1ev aa EPENTHETIC YUT,1bj EPENTHETIC YUT,1cm ak fk E,3E,3OVERLONG AA,3fk AA,3AA,3OVERLONG A",
  "3fk A,3A,1ev aa fu A,1cm ak fu A,3fk U,3U,1ev aa I,1cm ak fk I,3I,3O,3SUKUN,1bj NEQUDAA",
  "830=1cc NEQUDAA,2AFSAAQ,2ANGED,2BAU,2ATMAAU,2SHIYYAALAA,1eu bj,1cc MELODIC QITSA,2ZIQAA",
  "2QITSA,2ZAEF,2TURU,2ARKAANU,2SOF MASHFAAT,2ANNAAU,840=0MANDAIC aa HALQA,2AB,2AG,2AD,2AH",
  "2USHENNA,2AZ,2IT,2ATT,2AKSA,2AK,2AL,2AM,2AN,2AS,2IN,2AP,2ASZ,2AQ,2AR,2qt,2AT,2DUSHENNA,2KAD",
  "2wa,1AFFRICATION bj,1VOCALIZATION bj,1sm bj,85e=1cc,860=0SYRIAC aa MALAYALAM kp,3JA,3lj,3pf",
  "3qz,3NNNA,3re,3RA,3LLA,3LLLA,3ta,870=0kk aa ea ab tw uc,5sb ai uc,4ai bb at,4av bb at,4tw tj",
  "5gz ai tj,5va cz aj,5ai va cz,5av va cz,5va cz aq,4cz aj,4tw sb ai uc bi cz aj",
  "4ai bb at bi cz aj,4tw gz ai tj bi cz aj,5sb ai uc bi av ei,4ai bb at bi av ei",
  "4tw gz ai tj bi av ei,5ai hz,5av hz,1TATWEEL ab OVERSTRUCK hz,4ts,3co du aq,1aa THIN hl",
  "1BASELINE va cz,1ig va cz,1aa ke ab ca ad V,2iz ab ca ad V aq,2TAH ab cz aq,4aw du aq",
  "2KEHEH ab co du nq aq,1an hw,890=1POUND bj aj,1PIASTRE bj aj,898=1ad fz zv AL-JUZ",
  "2is zv ISHMAAM,4IMAALA,4TASHEEL,1MADDA WAAJIB,1hm ea MOKHASSAS,1DOUBLED MADDA",
  "1dh MADDA dy MADDA,1aa BEH ab ad V aq,4hz aj,2fi ab co du aj,2TAH ab co du aj",
  "2FEH ab cz aq bi aw du aj,2QAF ab cz aq,2tt ab al ge,2cv ab aw du aj,2hl ab co du aq bi hz aj",
  "8cz aj,2xq ab uq,2ts ab cz WITHIN,2ROHINGYA hl,2is ea,2DAL ab aw du aq,2SAD ab aw du aq",
  "2GAF ab ca at,2gj ts,2zx ab ca V aj,2wa ab aw du aq,2yr ab cz aq,2QAF ab cz aq bi NO du aj",
  "2BEH ab ad cv aj,2PEH ab ad cv aj,2TEH ab ad TEH aj,2xq ab ad ke aj",
  "2hl ab co du aq bi ad ke aj,2AFRICAN FEH,3QAF,3ke,2PEH ab ad V,2TEH ab ad V,2TTEH ab ad V",
  "2TCHEH ab ad V,2KEHEH ab ad V,2ot ab aw du aj,2AFRICAN QAF ab aw du aj,2fi ab aw du aj,6aq",
  "2tt ab ad kk aa TAH aj,2GRAF,1ad FARSI hl,2fz FARSI hl,3hl BARREE ab co du aq,3zv SAH,3ZAH",
  "1ee va cz aj,4aq,1SUKUN aq,1ee bo aq,2va cz kl bo aq,1ad is ts,2fz zv AR-RUB,3SAD,3wa,3QAF",
  "3ke ab tj,2is ke ab tj,2fz zv ATH-THALATHA,4AS-SAJDA,4AN-NISF,4SAKTA,4QIF,4WAQFA,3FOOTNOTE xa",
  "3ak SAFHA,1DISPUTED yh OF AYAH,1ci yc aq,1kc uc,2yc,2tj,2ud,2yd,2ys,1fo cs cz aj,2co du aj",
  "2uq aj,2cs cz aq,2co du aq,2uq aq,1fg ud,2yd,2ys,1ad fz ts,1uc ab ei,3cz aj,1tj ab cz aq",
  "1av bm aj,1ai bm aj,1av bm aq,1ai bm aq,1al ai bm aj,5ab cz,1ai bm aj ab cz,1yc ab cz",
  "1bj ok ke GHUNNA,0DEVANAGARI ak ca df,2df,2ct,2ew,1aa fu A,2A,2AA,2I,2II,2U,2UU,2cw R,3L",
  "2mj E,2fu E,2E,2AI,2mj O,2fu O,2O,2AU,2KA,2lo,2GA,2qq,2kp,2CA,2lg,2JA,2ul,2lj,2pf,2jv,2ph,2ka",
  "2qz,2TA,2mh,2DA,2po,2NA,2NNNA,2PA,2nx,2BA,2re,2MA,2YA,2RA,2RRA,2LA,2LLA,2LLLA,2VA,2kt,2ta,2SA",
  "2HA,1cm ak OE,3OOE,1ak kq,2io,1cm ak AA,3I,3II,3U,3UU,3cw R,4RR,3mj E,3fu E,3E,3AI,3mj O",
  "3fu O,3O,3AU,1ak fm,1cm ak wh E,3AW,1OM,1STRESS ak UDATTA,3xr,1ef fs,1db fs,1cm ak mj fk E",
  "3UE,3UUE,1aa QA,2KHHA,2GHHA,2ZA,2DDDHA,2RHA,2FA,2YYA,2cw RR,3LL,1cm ak cw L,4LL,1jc,1al jc",
  "1cr ex,2cs,2co,2aw,2bt,2by,2fx,2bv,2br,2dm,1eu ak,1ak fz SPACING cz,1aa mj A,2OE,2OOE,2AW,2UE",
  "2UUE,2MARWARI ph,2ZHA,2bl YA,2GGA,2JJA,2go gd,2DDDA,2BBA,0BENGALI ANJI,1ak df,2ct,2ew",
  "985=1aa A,2AA,2I,2II,2U,2UU,2cw R,3L,98f=2E,2AI,993=2O,2AU,2KA,2lo,2GA,2qq,2kp,2CA,2lg,2JA",
  "2ul,2lj,2pf,2jv,2ph,2ka,2qz,2TA,2mh,2DA,2po,2NA,9aa=2PA,2nx,2BA,2re,2MA,2YA,2RA,9b2=2LA",
  "9b6=2kt,2ta,2SA,2HA,9bc=1ak kq,2io,1cm ak AA,3I,3II,3U,3UU,3cw R,4RR,9c7=3E,3AI,9cb=3O,3AU",
  "1ak fm,1aa KHANDA TA,9d7=1AU mp bj,9dc=1aa RRA,2RHA,9df=2YYA,2cw RR,3LL,1cm ak cw L,4LL",
  "9e6=1cr ex,2cs,2co,2aw,2bt,2by,2fx,2bv,2br,2dm,1aa RA ab bb dl,4cu dl,1RUPEE bj,2ak",
  "1yb NUMERATOR cs,3co,3aw,3bt,3cs LESS THAN tr DENOMINATOR,2DENOMINATOR pd,1ISSHAR,1GANDA bj",
  "1aa VEDIC ct,1eu ak,1SANDHI bj,a01=0GURMUKHI ak ADAK BINDI,2BINDI,2ew,a05=1aa A,2AA,2I,2II,2U",
  "2UU,a0f=2EE,2AI,a13=2OO,2AU,2KA,2lo,2GA,2qq,2kp,2CA,2lg,2JA,2ul,2lj,2pf,2jv,2ph,2ka,2qz,2TA",
  "2mh,2DA,2po,2NA,a2a=2PA,2nx,2BA,2re,2MA,2YA,2RA,a32=2LA,2LLA,a35=2VA,2kt,a38=2SA,2HA",
  "a3c=1ak kq,a3e=1cm ak AA,3I,3II,3U,3UU,a47=3EE,3AI,a4b=3OO,3AU,1ak fm,a51=2UDAAT,a59=1aa KHHA",
  "2GHHA,2ZA,2RRA,a5e=2FA,a66=1cr ex,2cs,2co,2aw,2bt,2by,2fx,2bv,2br,2dm,1TIPPI,1ADDAK,1IRI,1URA",
  "1EK ONKAR,1ak YAKASH,1eu ak,a81=0GUJARATI ak df,2ct,2ew,a85=1aa A,2AA,2I,2II,2U,2UU,2cw R,3L",
  "1cm mj E,a8f=1aa E,2AI,1cm mj O,a93=1aa O,2AU,2KA,2lo,2GA,2qq,2kp,2CA,2lg,2JA,2ul,2lj,2pf,2jv",
  "2ph,2ka,2qz,2TA,2mh,2DA,2po,2NA,aaa=2PA,2nx,2BA,2re,2MA,2YA,2RA,ab2=2LA,2LLA,ab5=2VA,2kt,2ta",
  "2SA,2HA,abc=1ak kq,2io,1cm ak AA,3I,3II,3U,3UU,3cw R,4RR,3mj E,ac7=3E,3AI,3mj O,acb=3O,3AU",
  "1ak fm,ad0=1OM,ae0=1aa cw RR,3LL,1cm ak cw L,4LL,ae6=1cr ex,2cs,2co,2aw,2bt,2by,2fx,2bv,2br",
  "2dm,1eu ak,1RUPEE ak,af9=1aa ZHA,1ak SUKUN,2SHADDA,2MADDAH,2THREE-DOT kq aj,2bo kq aj",
  "2TWO-CIRCLE kq aj,b01=0ORIYA ak df,2ct,2ew,b05=1aa A,2AA,2I,2II,2U,2UU,2cw R,3L,b0f=2E,2AI",
  "b13=2O,2AU,2KA,2lo,2GA,2qq,2kp,2CA,2lg,2JA,2ul,2lj,2pf,2jv,2ph,2ka,2qz,2TA,2mh,2DA,2po,2NA",
  "b2a=2PA,2nx,2BA,2re,2MA,2YA,2RA,b32=2LA,2LLA,b35=2VA,2kt,2ta,2SA,2HA,b3c=1ak kq,2io,1cm ak AA",
  "3I,3II,3U,3UU,3cw R,4RR,b47=3E,3AI,b4b=3O,3AU,1ak fm,b55=2qg,1AI mp bj,1AU mp bj,b5c=1aa RRA",
  "2RHA,b5f=2YYA,2cw RR,3LL,1cm ak cw L,4LL,b66=1cr ex,2cs,2co,2aw,2bt,2by,2fx,2bv,2br,2dm",
  "1ISSHAR,1aa WA,1hq cs fj,3dh,2aw ji,2cs rz,3hy,2aw xk,b82=0TAMIL ak ct,2ew,b85=1aa A,2AA,2I",
  "2II,2U,2UU,b8e=2E,2EE,2AI,b92=2O,2OO,2AU,2KA,b99=2kp,2CA,b9c=2JA,b9e=2lj,2pf,ba3=2qz,2TA",
  "ba8=2NA,2NNNA,2PA,bae=2MA,2YA,2RA,2RRA,2LA,2LLA,2LLLA,2VA,2kt,2ta,2SA,2HA,bbe=1cm ak AA,3I",
  "3II,3U,3UU,bc6=3E,3EE,3AI,bca=3O,3OO,3AU,1ak fm,bd0=1OM,bd7=1AU mp bj,be6=1cr ex,2cs,2co,2aw",
  "2bt,2by,2fx,2bv,2br,2dm,1dq jx,2cs az,3ba,1DAY ak,1MONTH ak,1YEAR ak,1DEBIT ak,1CREDIT ak",
  "1AS aj ak,1RUPEE ak,1dq ak,c00=0TELUGU ak dj df aj,2df,2ct,2ew,2dj ct aj,1aa A,2AA,2I,2II,2U",
  "2UU,2cw R,3L,c0e=2E,2EE,2AI,c12=2O,2OO,2AU,2KA,2lo,2GA,2qq,2kp,2CA,2lg,2JA,2ul,2lj,2pf,2jv",
  "2ph,2ka,2qz,2TA,2mh,2DA,2po,2NA,c2a=2PA,2nx,2BA,2re,2MA,2YA,2RA,2RRA,2LA,2LLA,2LLLA,2VA,2kt",
  "2ta,2SA,2HA,c3c=1ak kq,2io,1cm ak AA,3I,3II,3U,3UU,3cw R,4RR,c46=3E,3EE,3AI,c4a=3O,3OO,3AU",
  "1ak fm,c55=1mp bj,1AI mp bj,c58=1aa zq,2DZA,2RRRA,c5d=2NAKAARA POLLU,c60=2cw RR,3LL",
  "1cm ak cw L,4LL,c66=1cr ex,2cs,2co,2aw,2bt,2by,2fx,2bv,2br,2dm,c77=1ak vs",
  "1hq cr ex to ODD POWERS OF bt,3cs to ODD POWERS OF bt,3co to ODD POWERS OF bt",
  "3aw to ODD POWERS OF bt,3cs to EVEN POWERS OF bt,3co to EVEN POWERS OF bt",
  "3aw to EVEN POWERS OF bt,1ak TUUMU,0KANNADA ak SPACING df,2df,2ct,2ew,2vs,1aa A,2AA,2I,2II,2U",
  "2UU,2cw R,3L,c8e=2E,2EE,2AI,c92=2O,2OO,2AU,2KA,2lo,2GA,2qq,2kp,2CA,2lg,2JA,2ul,2lj,2pf,2jv",
  "2ph,2ka,2qz,2TA,2mh,2DA,2po,2NA,caa=2PA,2nx,2BA,2re,2MA,2YA,2RA,2RRA,2LA,2LLA,cb5=2VA,2kt,2ta",
  "2SA,2HA,cbc=1ak kq,2io,1cm ak AA,3I,3II,3U,3UU,3cw R,4RR,cc6=3E,3EE,3AI,cca=3O,3OO,3AU,1ak fm",
  "cd5=1mp bj,1AI mp bj,cdd=1aa NAKAARA POLLU,2FA,ce0=2cw RR,3LL,1cm ak cw L,4LL,ce6=1cr ex,2cs",
  "2co,2aw,2bt,2by,2fx,2bv,2br,2dm,cf1=1ak oe,2om,d00=0MALAYALAM ak dj ct aj,2df,2ct,2ew",
  "1aa VEDIC ct,2A,2AA,2I,2II,2U,2UU,2cw R,3L,d0e=2E,2EE,2AI,d12=2O,2OO,2AU,2KA,2lo,2GA,2qq,2kp",
  "2CA,2lg,2JA,2ul,2lj,2pf,2jv,2ph,2ka,2qz,2TA,2mh,2DA,2po,2NA,2NNNA,2PA,2nx,2BA,2re,2MA,2YA,2RA",
  "2RRA,2LA,2LLA,2LLLA,2VA,2kt,2ta,2SA,2HA,2TTTA,1ak an ge fm,2xx fm,2io,1cm ak AA,3I,3II,3U,3UU",
  "3cw R,4RR,d46=3E,3EE,3AI,d4a=3O,3OO,3AU,1ak fm,1aa cz REPH,1ak PARA,d54=1aa CHILLU M,3Y,3LLL",
  "1AU mp bj,1hq cs rk,3FORTIETH,2aw EIGHTIETHS,2cs TWENTIETH,3TENTH,2aw TWENTIETHS,2cs FIFTH",
  "1aa iv II,2cw RR,3LL,1cm ak cw L,4LL,d66=1cr ex,2cs,2co,2aw,2bt,2by,2fx,2bv,2br,2dm,1dq jx",
  "2cs az,3ba,1hq cs fj,3dh,2aw ji,2cs rz,3hy,2aw xk,1DATE bj,1aa CHILLU NN,3N,3RR,3L,3LL,3K",
  "d81=0SINHALA ak df,2ANUSVARAYA,2VISARGAYA,d85=1aa AYANNA,2AAYANNA,2AEYANNA,2AEEYANNA,2IYANNA",
  "2IIYANNA,2UYANNA,2UUYANNA,2IRUYANNA,2IRUUYANNA,2ILUYANNA,2ILUUYANNA,2EYANNA,2EEYANNA,2AIYANNA",
  "2OYANNA,2OOYANNA,2AUYANNA,d9a=2jz KAYANNA,2je KAYANNA,2jz GAYANNA,2je GAYANNA",
  "2KANTAJA NAASIKYAYA,2SANYAKA GAYANNA,2jz CAYANNA,2je CAYANNA,2jz JAYANNA,2je JAYANNA",
  "2TAALUJA NAASIKYAYA,3SANYOOGA NAAKSIKYAYA,2SANYAKA JAYANNA,2jz TTAYANNA,2je TTAYANNA",
  "2jz DDAYANNA,2je DDAYANNA,2MUURDHAJA NAYANNA,2SANYAKA DDAYANNA,2jz TAYANNA,2je TAYANNA",
  "2jz DAYANNA,2je DAYANNA,2DANTAJA NAYANNA,db3=2SANYAKA DAYANNA,2jz PAYANNA,2je PAYANNA",
  "2jz BAYANNA,2je BAYANNA,2MAYANNA,2AMBA BAYANNA,2YAYANNA,2RAYANNA,dbd=2DANTAJA LAYANNA",
  "dc0=2VAYANNA,2TAALUJA SAYANNA,2MUURDHAJA SAYANNA,2DANTAJA SAYANNA,2HAYANNA,2MUURDHAJA LAYANNA",
  "2FAYANNA,dca=1ak AL-LAKUNA,dcf=1cm ak AELA-PILLA,3KETTI AEDA-PILLA,3DIGA AEDA-PILLA",
  "3KETTI IS-PILLA,3DIGA IS-PILLA,3KETTI PAA-PILLA,dd6=3DIGA PAA-PILLA,dd8=3GAETTA-PILLA",
  "3KOMBUVA,3DIGA KOMBUVA,3KOMBU DEKA,3KOMBUVA HAA AELA-PILLA,5DIGA AELA-PILLA,5GAYANUKITTA",
  "3GAYANUKITTA,de6=1LITH cr ex,3cs,3co,3aw,3bt,3by,3fx,3bv,3br,3dm,df2=1cm ak DIGA GAETTA-PILLA",
  "4GAYANUKITTA,1cc KUNDDALIYA,e01=0THAI ma KO KAI,2KHO KHAI,3KHUAT,3KHWAI,3KHON,3RAKHANG",
  "2NGO NGU,2CHO CHAN,3CHING,3CHANG,2SO SO,2CHO CHOE,2YO YING,2DO CHADA,2TO PATAK,2THO THAN",
  "3NANGMONTHO,3PHUTHAO,2NO NEN,2DO DEK,2TO TAO,2THO THUNG,3THAHAN,3THONG,2NO NU,2BO BAIMAI",
  "2PO PLA,2PHO PHUNG,2FO FA,2PHO PHAN,2FO FAN,2PHO SAMPHAO,2MO MA,2YO YAK,2RO RUA,2RU,2LO LING",
  "2LU,2WO WAEN,2SO SALA,3RUSI,3SUA,2HO HIP,2LO CHULA,2O ANG,2HO NOKHUK,2PAIYANNOI,2SARA A",
  "2MAI HAN-AKAT,2SARA AA,3AM,3I,3II,3UE,3UEE,3U,3UU,2PHINTHU,e3f=1yb au BAHT,1ma SARA E,3AE,3O",
  "3AI MAIMUAN,4MAIMALAI,2LAKKHANGYAO,2MAIYAMOK,2MAITAIKHU,2MAI EK,3THO,3TRI,3CHATTAWA",
  "2THANTHAKHAT,2NIKHAHIT,2YAMAKKAN,2FONGMAN,1cr ex,2cs,2co,2aw,2bt,2by,2fx,2bv,2br,2dm",
  "1ma ANGKHANKHU,2KHOMUT,e81=0LAO aa KO,2KHO SUNG,e84=3TAM,e86=2PALI qq,2NGO,2CO,2PALI lg",
  "2SO TAM,e8c=2PALI ul,2NYO,2PALI lj,3pf,3jv,3ph,3ka,3qz,2DO,2TO,2THO SUNG,3TAM,2PALI po,2NO",
  "2BO,2PO,2PHO SUNG,2FO TAM,2PHO TAM,2FO SUNG,2PALI re,2MO,2YO,2LO LING,ea5=3LOOT,ea7=2WO",
  "2SANSKRIT kt,3ta,2SO SUNG,2HO SUNG,2PALI LLA,2O,2HO TAM,1ps,1cm ak A,3MAI KAN,3AA,3AM,3I,3II",
  "3Y,3YY,3U,3UU,1ak PALI fm,1cm ak MAI KON,1SEMIVOWEL ak LO,3NYO,ec0=1cm ak E,3EI,3O,3AY,3AI",
  "ec6=1KO LA,ec8=1fo MAI EK,3THO,3TI,3CATAWA,1sh bj,1NIGGAHITA,ed0=1cr ex,2cs,2co,2aw,2bt,2by",
  "2fx,2bv,2br,2dm,edc=1HO NO,2MO,1aa KHMU GO,3NYO,f00=0TIBETAN iu OM",
  "1bj GTER YIG MGO TRUNCATED A,5-UM RNAM BCAD MA,6GTER wm MA,2ap YIG MGO MDUN MA",
  "2CLOSING YIG MGO SGAB MA,2xw YIG MGO PHUR xh MA,2YIG MGO wm xh MA,2SBRUL xh,2BSKUR YIG MGO",
  "2BKA- SHOG YIG MGO,2INTERSYLLABIC wm,2DELIMITER wm BSTAR,2xh,2NYIS xh,2wm xh,2NYIS wm xh",
  "2RIN CHEN SPUNGS xh,2RGYA GRAM xh,2xw -DZUD vb ME fk CAN,2GTER wm,1LOGOTYPE ak CHAD vb",
  "3LHAG vb,1ASTROLOGICAL ak SGRA GCAN -CHAR vb,3-KHYUD PA,3SDONG TSHUGS,1ak RDEL DKAR GCIG",
  "4GNYIS,4GSUM,3NAG GCIG,4GNYIS,3DKAR RDEL NAG,1cr ex,2cs,2co,2aw,2bt,2by,2fx,2bv,2br,2dm",
  "2dh cs,3co,3aw,3bt,3by,3fx,3bv,3br,3dm,3ex,1bj BSDUS vb,2NGAS BZUNG NYI ZLA",
  "2xw -DZUD vb BZHI MIG CAN,2NGAS BZUNG SGOR vb,2CHE MGO,2zq -PHRU,2GUG vb GYON,4GYAS",
  "2ANG KHANG GYON,4GYAS,1ak YAR TSHES,2MAR TSHES,1aa KA,2lo,2GA,2qq,2kp,2CA,2lg,2JA,f49=2lj,2pf",
  "2jv,2ph,2ka,2qz,2TA,2mh,2DA,2po,2NA,2PA,2nx,2BA,2re,2MA,2zq,2zr,2DZA,2DZHA,2WA,2ZHA,2ZA,2-A",
  "2YA,2RA,2LA,2kt,2ta,2SA,2HA,2A,2KSSA,2FIXED-FORM RA,2KKA,2RRA,f71=1cm ak AA,3I,3II,3U,3UU",
  "3cw R,4RR,4L,4LL,3E,3EE,3O,3OO,1ak RJES SU kp RO,2RNAM BCAD,1cm ak bq I,4II",
  "1ak NYI ZLA NAA DA,2SNA LDAN,1bj HALANTA,2PALUTA,1ak LCI vb,2YANG vb,2LCE zq CAN,2MCHU CAN",
  "2GRU CAN RGYINGS,3MED RGYINGS,2ca MCHU CAN,1sa ak LCE zq CAN,3MCHU CAN,3ca MCHU CAN,2aa KA",
  "3lo,3GA,3qq,3kp,3CA,3lg,3JA,f99=3lj,3pf,3jv,3ph,3ka,3qz,3TA,3mh,3DA,3po,3NA,3PA,3nx,3BA,3re",
  "3MA,3zq,3zr,3DZA,3DZHA,3WA,3ZHA,3ZA,3-A,3YA,3RA,3LA,3kt,3ta,3SA,3HA,3A,3KSSA,3FIXED-FORM WA",
  "4YA,4RA,fbe=1KU RU lo,4BZHI MIG CAN,1CANTILLATION ak bl BEAT,3cl BEAT,3CANG TE-U,3SBUB -CHAL",
  "1au DRIL BU,2RDO RJE,2PADMA GDAN,2RDO RJE RGYA GRAM,2PHUR PA,2NOR BU,4NYIS -KHYIL",
  "4GSUM -KHYIL,4BZHI -KHYIL,fce=1ak RDEL NAG RDEL DKAR,4GSUM,1bj BSKA- SHOG GI MGO RGYAN",
  "2MNYAM YIG GI MGO RGYAN,2NYIS wm,2ap BRDA RNYING YIG MGO MDUN MA",
  "2CLOSING BRDA RNYING YIG MGO SGAB MA,0sw SVASTI ak,0up SVASTI ak,0sw SVASTI ak ab du",
  "0up SVASTI ak ab du,0TIBETAN bj LEADING MCHAN vb,2TRAILING MCHAN vb,1000=0MYANMAR aa KA,2lo",
  "2GA,2qq,2kp,2CA,2lg,2JA,2ul,2lj,2NNYA,2pf,2jv,2ph,2ka,2qz,2TA,2mh,2DA,2po,2NA,2PA,2nx,2BA,2re",
  "2MA,2YA,2RA,2LA,2WA,2SA,2HA,2LLA,2A,2SHAN A,2I,2II,2U,2UU,2E,2MON E,2O,2AU,1cm ak TALL AA,3AA",
  "3I,3II,3U,3UU,3E,3AI,3MON II,4O,3E aj,1ak ct,2cz aq,2ew,2fm,2ASAT,1fq ak cf YA,4RA,4WA,4HA",
  "1aa GREAT SA,1cr ex,2cs,2co,2aw,2bt,2by,2fx,2bv,2br,2dm,1ak ec hi,2hi,1au LOCATIVE,2COMPLETED",
  "2AFOREMENTIONED,2GENITIVE,1aa kt,2ta,2cw R,3RR,3L,3LL,1cm ak cw R,4RR,4L,4LL,1aa MON kp,3ul",
  "3BBA,3BBE,1fq ak MON cf NA,5MA,5LA,1aa SGAW KAREN kt,1cm ak SGAW KAREN EU",
  "1fo bj SGAW KAREN HATHI,5KE PHO,1aa WESTERN PWO KAREN mh,5PWA,1cm ak WESTERN PWO KAREN EU,6UE",
  "1ak WESTERN PWO KAREN TONE-1,5te,5vi,5TONE-4,5tf,1aa EASTERN PWO KAREN qz,5YWA,5GHWA",
  "1cm ak GEBA KAREN I,3KAYAH OE,4U,4EE,1aa SHAN KA,3lo,3GA,3CA,3ZA,3lj,3DA,3NA,3nx,3FA,3BA,3mh",
  "3HA,1fq ak SHAN cf WA,1cm ak SHAN AA,4E,5aj,4ar Y,1ak SHAN te,3vi,3tf,3TONE-6,3COUNCIL te,4vi",
  "4EMPHATIC fo,1aa RUMAI PALAUNG FA,1ak RUMAI PALAUNG tf,1SHAN cr ex,3cs,3co,3aw,3bt,3by,3fx",
  "3bv,3br,3dm,1ak KHAMTI TONE-1,3vi,1cm ak AITON A,4AI,1au SHAN cs,3dw,0yl ac aa AN,3BAN,3GAN",
  "3DON,3EN,3VIN,3ZEN,3TAN,3IN,3KAN,3LAS,3MAN,3NAR,3ON,3PAR,3ZHAR,3RAE,3SAN,3TAR,3UN,3PHAR,3KHAR",
  "3GHAN,3QAR,3mw,3CHIN,3CAN,3JIL,3CIL,3CHAR,3XAN,3JHAN,3HAE,3HE,3HIE,3WE,3HAR,3HOE,10c7=3YN",
  "10cd=3AEN,10d0=1aa AN,2BAN,2GAN,2DON,2EN,2VIN,2ZEN,2TAN,2IN,2KAN,2LAS,2MAN,2NAR,2ON,2PAR",
  "2ZHAR,2RAE,2SAN,2TAR,2UN,2PHAR,2KHAR,2GHAN,2QAR,2mw,2CHIN,2CAN,2JIL,2CIL,2CHAR,2XAN,2JHAN",
  "2HAE,2HE,2HIE,2WE,2HAR,2HOE,2FI,2YN,2ELIFI,2ci GAN,2wa,1vr fh,0ev aa yl NAR,0yl aa AEN",
  "2HARD ak,2LABIAL ak,0ui CHOSEONG ww,2ve,2NIEUN,2xo,2vf,2RIEUL,2MIEUM,2PIEUP,2xm,2SIOS",
  "2SSANGSIOS,2IEUNG,2CIEUC,2xl,2sj,2sp,2td,2su,2HIEUH,2NIEUN-KIYEOK,2SSANGNIEUN,2yz",
  "2NIEUN-PIEUP,2TIKEUT-KIYEOK,2RIEUL-NIEUN,2SSANGRIEUL,2ux,2KAPYEOUNRIEUL,2MIEUM-PIEUP,2wd",
  "2PIEUP-KIYEOK,2PIEUP-NIEUN,2zf,2xd,2ze,2rb,2PIEUP-SIOS-PIEUP,2PIEUP-SSANGSIOS",
  "2PIEUP-SIOS-CIEUC,2PIEUP-CIEUC,2PIEUP-CHIEUCH,2PIEUP-THIEUTH,2PIEUP-PHIEUPH,2we,2wv",
  "2SIOS-KIYEOK,2SIOS-NIEUN,2SIOS-TIKEUT,2SIOS-RIEUL,2SIOS-MIEUM,2SIOS-PIEUP,2SIOS-PIEUP-KIYEOK",
  "2SIOS-SSANGSIOS,2SIOS-IEUNG,2SIOS-CIEUC,2SIOS-CHIEUCH,2SIOS-KHIEUKH,2SIOS-THIEUTH",
  "2SIOS-PHIEUPH,2SIOS-HIEUH,2CHITUEUMSIOS,2CHITUEUMSSANGSIOS,2CEONGCHIEUMSIOS",
  "2CEONGCHIEUMSSANGSIOS,2PANSIOS,2IEUNG-KIYEOK,2IEUNG-TIKEUT,2IEUNG-MIEUM,2IEUNG-PIEUP",
  "2IEUNG-SIOS,2IEUNG-PANSIOS,2SSANGIEUNG,2IEUNG-CIEUC,2IEUNG-CHIEUCH,2IEUNG-THIEUTH",
  "2IEUNG-PHIEUPH,2YESIEUNG,2CIEUC-IEUNG,2CHITUEUMCIEUC,2CHITUEUMSSANGCIEUC,2CEONGCHIEUMCIEUC",
  "2CEONGCHIEUMSSANGCIEUC,2CHIEUCH-KHIEUKH,2CHIEUCH-HIEUH,2CHITUEUMCHIEUCH,2CEONGCHIEUMCHIEUCH",
  "2PHIEUPH-PIEUP,2ti,2SSANGHIEUH,2YEORINHIEUH,2KIYEOK-TIKEUT,2NIEUN-SIOS,2us,2ut,2TIKEUT-RIEUL",
  "2ue,1JUNGSEONG ue,2A,2AE,2YA,2YAE,2EO,2E,2YEO,2YE,2O,2WA,2WAE,2OE,2YO,2U,2WEO,2WE,2WI,2YU,2EU",
  "2YI,2I,2A-O,2A-U,2YA-O,2YA-YO,2EO-O,2EO-U,2EO-EU,2YEO-O,2YEO-U,2O-EO,2O-E,2O-YE,2O-O,2O-U",
  "2YO-YA,2YO-YAE,2YO-YEO,2YO-O,2YO-I,2U-A,2U-AE,2U-EO-EU,2U-YE,2U-U,2YU-A,2YU-EO,2YU-E,2YU-YEO",
  "2YU-YE,2YU-U,2YU-I,2EU-U,2EU-EU,2YI-U,2I-A,2I-YA,2I-O,2I-U,2I-EU,2I-ARAEA,2ARAEA,2ARAEA-EO",
  "2ARAEA-U,2ARAEA-I,2SSANGARAEA,2A-EU,2YA-U,2YEO-YA,2O-YA,2O-YAE,1JONGSEONG ww,2ve,2KIYEOK-SIOS",
  "2NIEUN,2us,2ut,2xo,2RIEUL,2sv,2uy,2uz,2xe,2wj,2wi,2ux,2MIEUM,2PIEUP,2xd,2SIOS,2SSANGSIOS",
  "2IEUNG,2CIEUC,2sj,2sp,2td,2su,2HIEUH,2KIYEOK-RIEUL,2KIYEOK-SIOS-KIYEOK,2NIEUN-KIYEOK,2yz",
  "2NIEUN-SIOS,2NIEUN-PANSIOS,2NIEUN-THIEUTH,2TIKEUT-KIYEOK,2TIKEUT-RIEUL,2zh,2RIEUL-NIEUN,2zj",
  "2RIEUL-TIKEUT-HIEUH,2SSANGRIEUL,2RIEUL-MIEUM-KIYEOK,2RIEUL-MIEUM-SIOS,2RIEUL-PIEUP-SIOS",
  "2RIEUL-PIEUP-HIEUH,2vy,2RIEUL-SSANGSIOS,2RIEUL-PANSIOS,2RIEUL-KHIEUKH,2zk,2MIEUM-KIYEOK",
  "2MIEUM-RIEUL,2MIEUM-PIEUP,2MIEUM-SIOS,2MIEUM-SSANGSIOS,2MIEUM-PANSIOS,2MIEUM-CHIEUCH",
  "2MIEUM-HIEUH,2wd,2PIEUP-RIEUL,2PIEUP-PHIEUPH,2PIEUP-HIEUH,2we,2SIOS-KIYEOK,2SIOS-TIKEUT",
  "2SIOS-RIEUL,2SIOS-PIEUP,2PANSIOS,2IEUNG-KIYEOK,2IEUNG-SSANGKIYEOK,2SSANGIEUNG,2IEUNG-KHIEUKH",
  "2YESIEUNG,2YESIEUNG-SIOS,2YESIEUNG-PANSIOS,2PHIEUPH-PIEUP,2ti,2HIEUH-NIEUN,2HIEUH-RIEUL",
  "2HIEUH-MIEUM,2HIEUH-PIEUP,2YEORINHIEUH,2KIYEOK-NIEUN,2KIYEOK-PIEUP,2KIYEOK-CHIEUCH",
  "2KIYEOK-KHIEUKH,2KIYEOK-HIEUH,2SSANGNIEUN,0ETHIOPIC iu HA,2HU,2HI,2HAA,2HEE,2HE,2HO,2HOA,2LA",
  "2LU,2LI,2LAA,2LEE,2LE,2LO,2LWA,2HHA,2HHU,2HHI,2HHAA,2HHEE,2HHE,2HHO,2HHWA,2MA,2MU,2MI,2MAA",
  "2MEE,2ME,2MO,2MWA,2SZA,2SZU,2SZI,2SZAA,2SZEE,2SZE,2SZO,2SZWA,2RA,2RU,2RI,2RAA,2REE,2RE,2RO",
  "2RWA,2SA,2SU,2SI,2SAA,2SEE,2SE,2SO,2SWA,2kt,2SHU,2SHI,2SHAA,2SHEE,2vz,2SHO,2SHWA,2QA,2QU,2QI",
  "2QAA,2QEE,2QE,2QO,2QOA,2QWA,124a=2QWI,2QWAA,2QWEE,2QWE,1250=2QHA,2QHU,2QHI,2QHAA,2QHEE,2QHE",
  "2QHO,1258=2QHWA,125a=2QHWI,2QHWAA,2QHWEE,2QHWE,1260=2BA,2BU,2BI,2BAA,2BEE,2BE,2BO,2BWA,2VA",
  "2VU,2VI,2VAA,2VEE,2VE,2VO,2VWA,2TA,2TU,2TI,2TAA,2TEE,2TE,2TO,2TWA,2CA,2CU,2CI,2CAA,2CEE,2CE",
  "2CO,2CWA,2XA,2XU,2XI,2XAA,2XEE,2XE,2XO,2XOA,2XWA,128a=2XWI,2XWAA,2XWEE,2XWE,1290=2NA,2NU,2NI",
  "2NAA,2NEE,2NE,2NO,2NWA,2lj,2NYU,2NYI,2NYAA,2NYEE,2NYE,2NYO,2NYWA,2go A,3U,3I,3AA,3EE,3E,3O",
  "3WA,2KA,2KU,2KI,2KAA,2KEE,2KE,2KO,2KOA,2KWA,12b2=2KWI,2KWAA,2KWEE,2KWE,12b8=2KXA,2KXU,2KXI",
  "2KXAA,2KXEE,2KXE,2KXO,12c0=2KXWA,12c2=2KXWI,2KXWAA,2KXWEE,2KXWE,12c8=2WA,2WU,2WI,2WAA,2WEE",
  "2WE,2WO,2WOA,2PHARYNGEAL A,3U,3I,3AA,3EE,3E,3O,12d8=2ZA,2ZU,2ZI,2ZAA,2ZEE,2ZE,2ZO,2ZWA,2ZHA",
  "2ZHU,2ZHI,2ZHAA,2ZHEE,2ZHE,2ZHO,2ZHWA,2YA,2YU,2YI,2YAA,2YEE,2YE,2YO,2YOA,2DA,2DU,2DI,2DAA",
  "2DEE,2DE,2DO,2DWA,2ph,2DDU,2DDI,2DDAA,2DDEE,2DDE,2DDO,2DDWA,2JA,2JU,2JI,2JAA,2JEE,2JE,2JO",
  "2JWA,2GA,2GU,2GI,2GAA,2GEE,2GE,2GO,2GOA,2GWA,1312=2GWI,2GWAA,2GWEE,2GWE,1318=2GGA,2GGU,2GGI",
  "2GGAA,2GGEE,2GGE,2GGO,2GGWAA,2mh,2THU,2THI,2THAA,2THEE,2tr,2THO,2THWA,2lg,2CHU,2CHI,2CHAA",
  "2CHEE,2CHE,2CHO,2CHWA,2nx,2PHU,2PHI,2PHAA,2PHEE,2PHE,2PHO,2PHWA,2zq,2TSU,2TSI,2TSAA,2TSEE",
  "2TSE,2TSO,2TSWA,2TZA,2TZU,2TZI,2TZAA,2TZEE,2TZE,2TZO,2TZOA,2FA,2FU,2FI,2FAA,2FEE,2FE,2FO,2FWA",
  "2PA,2PU,2PI,2PAA,2PEE,2PE,2PO,2PWA,2RYA,2MYA,2FYA,135d=1dj sm bi cm mp bj,2cm mp bj,2sm bj",
  "1hi bj,1WORDSPACE,1if gd,1et,1jt,1iw,1PREFACE iw,1fc bj,1vr fh,1cr cs,2co,2aw,2bt,2by,2fx,2bv",
  "2br,2dm,1dq jx,2fl,2jk,2od,2im,2ou,2fe,2mm,2ga,2az,2jx ba,1380=1iu SEBATBEIT MWA,2MWI,2MWEE",
  "2MWE,2SEBATBEIT BWA,2BWI,2BWEE,2BWE,2SEBATBEIT FWA,2FWI,2FWEE,2FWE,2SEBATBEIT PWA,2PWI,2PWEE",
  "2PWE,1TONAL bj YIZET,3DERET,3RIKRIK,3fu RIKRIK,3DIFAT,3KENAT,3CHIRET,3HIDET,3DERET-HIDET",
  "3KURT,13a0=0CHEROKEE aa A,2E,2I,2O,2U,2V,2GA,2KA,2GE,2GI,2GO,2GU,2GV,2HA,2HE,2HI,2HO,2HU,2HV",
  "2LA,2LE,2LI,2LO,2LU,2LV,2MA,2ME,2MI,2MO,2MU,2NA,2HNA,2NAH,2NE,2NI,2NO,2NU,2NV,2QUA,2QUE,2QUI",
  "2QUO,2QUU,2QUV,2SA,2S,2SE,2SI,2SO,2SU,2SV,2DA,2TA,2DE,2TE,2DI,2TI,2DO,2DU,2DV,2DLA,2TLA,2TLE",
  "2TLI,2TLO,2TLU,2TLV,2zq,2TSE,2TSI,2TSO,2TSU,2TSV,2WA,2WE,2WI,2WO,2WU,2WV,2YA,2YE,2YI,2YO,2YU",
  "2YV,2MV,13f8=1ad aa YE,3YI,3YO,3YU,3YV,3MV,1400=0CANADIAN SYLLABICS py,2E,2AAI,2I,2II,2O,2OO",
  "2qp OO,2nu EE,3I,2A,2AA,2WE,2bf WE,2WI,2bf WI,2WII,2bf WII,2WO,2bf WO,2WOO,2bf WOO,2pa WOO",
  "2WA,2bf WA,2WAA,2bf WAA,2pa WAA,2AI,2qp W,2go gd,2ar db,3ef,3gz dh ei,3sb dh ei,3ai dh ei,3ei",
  "3al db,4fu an STROKES,3bb cz,3fu as at,3cy,3dg lf,2EN,2IN,2ON,2AN,2PE,2PAAI,2PI,2PII,2PO,2POO",
  "2qp POO,2nu HEE,3HI,2PA,2PAA,2PWE,2bf PWE,2PWI,2bf PWI,2PWII,2bf PWII,2PWO,2bf PWO,2PWOO",
  "2bf PWOO,2PWA,2bf PWA,2PWAA,2bf PWAA,2qp PWAA,2P,2bf P,2nu H,2TE,2TAAI,2TI,2TII,2TO,2TOO",
  "2qp TOO,2nu DEE,3DI,2TA,2TAA,2TWE,2bf TWE,2TWI,2bf TWI,2TWII,2bf TWII,2co,2bf co,2TWOO",
  "2bf TWOO,2TWA,2bf TWA,2TWAA,2bf TWAA,2pa TWAA,2T,2TTE,2TTI,2TTO,2pf,2KE,2KAAI,2KI,2KII,2KO",
  "2KOO,2qp KOO,2KA,2KAA,2KWE,2bf KWE,2KWI,2bf KWI,2KWII,2bf KWII,2KWO,2bf KWO,2KWOO,2bf KWOO",
  "2KWA,2bf KWA,2KWAA,2bf KWAA,2pa KWAA,2K,2KW,2SOUTH-SLAVEY KEH,3KIH,3KOH,3KAH,2CE,2CAAI,2CI",
  "2CII,2CO,2COO,2qp COO,2CA,2CAA,2CWE,2bf CWE,2CWI,2bf CWI,2CWII,2bf CWII,2CWO,2bf CWO,2CWOO",
  "2bf CWOO,2CWA,2bf CWA,2CWAA,2bf CWAA,2pa CWAA,2C,2vc TH,2ME,2MAAI,2MI,2MII,2MO,2MOO,2qp MOO",
  "2MA,2MAA,2MWE,2bf MWE,2MWI,2bf MWI,2MWII,2bf MWII,2MWO,2bf MWO,2MWOO,2bf MWOO,2MWA,2bf MWA",
  "2MWAA,2bf MWAA,2pa MWAA,2M,2bf M,2MH,2ATHAPASCAN M,2vc M,2NE,2NAAI,2NI,2NII,2NO,2NOO,2qp NOO",
  "2NA,2NAA,2NWE,2bf NWE,2NWA,2bf NWA,2NWAA,2bf NWAA,2pa NWAA,2N,2nu NG,2NH,2LE,2LAAI,2LI,2LII",
  "2LO,2LOO,2qp LOO,2LA,2LAA,2LWE,2bf LWE,2LWI,2bf LWI,2LWII,2bf LWII,2LWO,2bf LWO,2LWOO",
  "2bf LWOO,2LWA,2bf LWA,2LWAA,2bf LWAA,2L,2bf L,2cf L,2SE,2SAAI,2SI,2SII,2SO,2SOO,2qp SOO,2SA",
  "2SAA,2SWE,2bf SWE,2SWI,2bf SWI,2SWII,2bf SWII,2SWO,2bf SWO,2SWOO,2bf SWOO,2SWA,2bf SWA,2SWAA",
  "2bf SWAA,2pa SWAA,2S,2ATHAPASCAN S,2SW,2BLACKFOOT S,2MOOSE-CREE SK,2pa SKW,3S-W,3SPWA,3STWA",
  "3SKWA,3SCWA,2vz,2SHI,2SHII,2SHO,2SHOO,2kt,2SHAA,2SHWE,2bf SHWE,2SHWI,2bf SHWI,2SHWII",
  "2bf SHWII,2SHWO,2bf SHWO,2SHWOO,2bf SHWOO,2SHWA,2bf SHWA,2SHWAA,2bf SHWAA,2SH,2YE,2YAAI,2YI",
  "2YII,2YO,2YOO,2qp YOO,2YA,2YAA,2YWE,2bf YWE,2YWI,2bf YWI,2YWII,2bf YWII,2YWO,2bf YWO,2YWOO",
  "2bf YWOO,2YWA,2bf YWA,2YWAA,2bf YWAA,2pa YWAA,2Y,2BIBLE-CREE Y,2bf Y,2vc YI,2RE,2R-CREE RE",
  "2bf LE,2RAAI,2RI,2RII,2RO,2ROO,2bf LO,2RA,2RAA,2bf LA,2RWAA,2bf RWAA,2R,2bf R,2cf R,2FE,2FAAI",
  "2FI,2FII,2FO,2FOO,2FA,2FAA,2FWAA,2bf FWAA,2F,2tr,2N-CREE tr,2THI,2N-CREE THI,2THII",
  "2N-CREE THII,2THO,2THOO,2mh,2THAA,2THWAA,2bf THWAA,2TH,2TTHE,2TTHI,2TTHO,2jv,2TTH,2TYE,2TYI",
  "2TYO,2TYA,2NUNAVIK HE,3HI,3HII,3HO,3HOO,3HA,3HAA,3H,2NUNAVUT H,2HK,2QAAI,2QI,2QII,2QO,2QOO",
  "2QA,2QAA,2Q,2TLHE,2TLHI,2TLHO,2TLHA,2bf RE,3RI,3RO,3RA,2NGAAI,2NGI,2NGII,2NGO,2NGOO,2kp,2NGAA",
  "2NG,2NNG,2vc vz,3SHI,3SHO,3kt,2WOODS-CREE tr,3THI,3THO,3mh,3TH,2LHI,2LHII,2LHO,2LHOO,2LHA",
  "2LHAA,2LH,2TH-CREE tr,3THI,3THII,3THO,3THOO,3mh,3THAA,3TH,2AIVILIK B,2BLACKFOOT E,3I,3O,3A",
  "3WE,3WI,3WO,3WA,3NE,3NI,3NO,3NA,3KE,3KI,3KO,3KA,2vc HE,3HI,3HO,3HA,2nu GHU,3GHO,3GHE,3GHEE",
  "3GHI,3qq,3RU,3RO,3RE,3REE,3RI,3RA,3WU,3WO,3WE,3WEE,3WI,3WA,3HWU,3HWO,3HWE,3HWEE,3HWI,3HWA",
  "3THU,3THO,3tr,3THEE,3THI,3mh,3TTU,3TTO,3TTE,3TTEE,3TTI,3pf,3PU,3PO,3PE,3PEE,3PI,3PA,3P,3GU",
  "3GO,3GE,3GEE,3GI,3GA,3KHU,3KHO,3KHE,3KHEE,3KHI,3lo,3KKU,3KKO,3KKE,3KKEE,3KKI,3KKA,3KK,3NU,3NO",
  "3NE,3NEE,3NI,3NA,3MU,3MO,3ME,3MEE,3MI,3MA,3YU,3YO,3YE,3YEE,3YI,3YA,3JU,2vc JU,2nu JO,3JE,3JEE",
  "3JI,2vc JI,2nu JA,3JJU,3JJO,3JJE,3JJEE,3JJI,3JJA,3LU,3LO,3LE,3LEE,3LI,3LA,3DLU,3DLO,3DLE",
  "3DLEE,3DLI,3DLA,3LHU,3LHO,3LHE,3LHEE,3LHI,3LHA,3TLHU,3TLHO,3TLHE,3TLHEE,3TLHI,3TLHA,3TLU,3TLO",
  "3TLE,3TLEE,3TLI,3TLA,3ZU,3ZO,3ZE,3ZEE,3ZI,3ZA,3Z,3ap Z,3DZU,3DZO,3DZE,3DZEE,3DZI,3DZA,3SU,3SO",
  "3SE,3SEE,3SI,3SA,3SHU,3SHO,3vz,3SHEE,3SHI,3kt,3SH,3TSU,3TSO,3TSE,3TSEE,3TSI,3zq,3CHU,3CHO",
  "3CHE,3CHEE,3CHI,3lg,3TTSU,3TTSO,3TTSE,3TTSEE,3TTSI,3TTSA,2CHI ak,2if gd,2QAI,2NGAI,2NNGI",
  "2NNGII,2NNGO,2NNGOO,2NNGA,2NNGAA,2WOODS-CREE THWEE,3THWI,3THWII,3THWO,3THWOO,3THWA,3THWAA",
  "3ar TH,2BLACKFOOT W,0OGHAM ll bj,1aa BEITH,2LUIS,2FEARN,2SAIL,2NION,2UATH,2DAIR,2TINNE,2COLL",
  "2CEIRT,2MUIN,2GORT,2NGEADAL,2STRAIF,2RUIS,2AILM,2ONN,2UR,2EADHADH,2IODHADH,2EABHADH,2OR",
  "2UILLEANN,2IFIN,2EAMHANCHOLL,2PEITH,1FEATHER bj,1bq FEATHER bj,16a0=0RUNIC aa FEHU FEOH FE F",
  "2V,2URUZ UR U,2YR,2Y,2W,2THURISAZ THURS THORN,2ETH,2ANSUZ A,2OS O,2AC A,2AESC",
  "2LONG-BRANCH-OSS O,2SHORT-TWIG-OSS O,2O,2OE,2ON,2RAIDO RAD REID R,2KAUNA,2CEN,2KAUN K,2G,2ENG",
  "2GEBO GYFU G,2GAR,2WUNJO WYNN W,2HAGLAZ H,2HAEGL H,2LONG-BRANCH-HAGALL H,2SHORT-TWIG-HAGALL H",
  "2NAUDIZ NYD NAUD N,2SHORT-TWIG-NAUD N,2DOTTED-N,2ISAZ IS ISS I,2E,2JERAN J,2GER",
  "2LONG-BRANCH-AR AE,2SHORT-TWIG-AR A,2IWAZ EOH,2PERTHO PEORTH P,2ALGIZ EOLHX,2SOWILO S",
  "2SIGEL LONG-BRANCH-SOL S,2SHORT-TWIG-SOL S,2C,2Z,2TIWAZ TIR TYR T,2SHORT-TWIG-TYR T,2D",
  "2BERKANAN BEORC BJARKAN B,2SHORT-TWIG-BJARKAN B,2DOTTED-P,2OPEN-P,2EHWAZ EH E,2MANNAZ MAN M",
  "2LONG-BRANCH-MADR M,2SHORT-TWIG-MADR M,2LAUKAZ LAGU LOGR L,2DOTTED-L,2INGWAZ,2ING",
  "2DAGAZ DAEG D,2OTHALAN ETHEL O,2EAR,2IOR,2CWEORTH,2CALC,2CEALC,2STAN,2LONG-BRANCH-YR",
  "2SHORT-TWIG-YR,2ICELANDIC-YR,2Q,2X,1de cc,1kd cc,1gr cc,1ARLAUG au,1TVIMADUR au,1BELGTHOR au",
  "1aa K,2SH,2OO,2FRANKS CASKET OS,4IS,4EH,4AC,4AESC,1700=0TAGALOG aa A,2I,2U,2KA,2GA,2kp,2TA",
  "2DA,2NA,2PA,2BA,2MA,2YA,2RA,2LA,2WA,2SA,2HA,1cm ak I,3U,1ak fm,2PAMUDPOD,171f=1aa iv RA",
  "0HANUNOO aa A,2I,2U,2KA,2GA,2kp,2TA,2DA,2NA,2PA,2BA,2MA,2YA,2RA,2LA,2WA,2SA,2HA,1cm ak I,3U",
  "1ak PAMUDPOD,0PHILIPPINE de cc,1al cc,1740=0BUHID aa A,2I,2U,2KA,2GA,2kp,2TA,2DA,2NA,2PA,2BA",
  "2MA,2YA,2RA,2LA,2WA,2SA,2HA,1cm ak I,3U,1760=0TAGBANWA aa A,2I,2U,2KA,2GA,2kp,2TA,2DA,2NA,2PA",
  "2BA,2MA,2YA,176e=2LA,2WA,2SA,1772=1cm ak I,3U,1780=0KHMER aa KA,2lo,2KO,2KHO,2NGO,2CA,2lg,2CO",
  "2CHO,2NYO,2DA,2jv,2DO,2TTHO,2NNO,2TA,2mh,2TO,2THO,2NO,2BA,2nx,2PO,2PHO,2MO,2YO,2RO,2LO,2VO",
  "2kt,2SSO,2SA,2HA,2LA,2QA,1kw cm QAQ,3QAA,3QI,3QII,3QU,3QUK,3QUU,3QUUV,3RY,3RYY,3LY,3LYY,3QE",
  "3QAI,3QOO TYPE cs,5co,3QAU,1cm INHERENT AQ,3AA,2ak AA,3I,3II,3Y,3YY,3U,3UU,3UA,3OE,3YA,3IE,3E",
  "3AE,3AI,3OO,3AU,1ak NIKAHIT,2REAHMUK,2YUUKALEAPINTU,2MUUSIKATOAN,2TRIISAP,2BANTOC,2ROBAT",
  "2TOANDAKHIAT,2KAKABAT,2AHSDA,2SAMYOK SANNYA,2VIRIAM,2COENG,2BATHAMASAT,2KHAN,2BARIYOOSAN",
  "2CAMNUC PII KUUH,2LEK TOO,2BEYYAL,2PHNAEK MUAN,2KOOMUUT,1yb au RIEL,1ak AVAKRAHASANYA",
  "2ATTHACAN,17e0=1cr ex,2cs,2co,2aw,2bt,2by,2fx,2bv,2br,2dm,17f0=1au LEK ATTAK SON,4MUOY,4PII",
  "4BEI,4BUON,4PRAM,4PRAM-MUOY,4PRAM-PII,4PRAM-BEI,4PRAM-BUON,1800=0MONGOLIAN xu,1ps,1et,1if gd",
  "1iw,1bt du,1TODO SOFT py,1SIBE iu BOUNDARY xa,1MANCHU et,2if gd,1NIRUGU",
  "1FREE VARIATION SELECTOR cs,4co,4aw,1cm fh,1FREE VARIATION SELECTOR bt,1cr ex,2cs,2co,2aw,2bt",
  "2by,2fx,2bv,2br,2dm,1820=1aa A,2E,2I,2O,2U,2OE,2UE,2EE,2NA,2ANG,2BA,2PA,2QA,2GA,2MA,2LA,2SA",
  "2kt,2TA,2DA,2lg,2JA,2YA,2RA,2WA,2FA,2KA,2lo,2zq,2ZA,2HAA,2ZRA,2LHA,2ZHI,2CHI,2TODO fk cm ak",
  "3E,3I,3O,3U,3OE,3UE,3ANG,3BA,3PA,3QA,3GA,3MA,3TA,3DA,3lg,3JA,3zq,3YA,3WA,3KA,3GAA,3HAA,3JIA",
  "3NIA,3DZA,2SIBE E,3I,3IY,3UE,3U,3ANG,3KA,3GA,3HA,3PA,3kt,3TA,3DA,3JA,3FA,3GAA,3HAA,3zq,3ZA",
  "3RAA,3lg,3ZHA,2MANCHU I,3KA,3RA,3FA,3ZHA,2lg ab co du,1880=2ALI GALI ct cs,4ew cs,4DAMARU",
  "4UBADAMA,4ca UBADAMA,4BALUDA,4aw BALUDA,4A,4I,4KA,4kp,4CA,4pf,4jv,4ph,4qz,4TA,4DA,4PA,4nx,4ta",
  "4ZHA,4ZA,4AH,2TODO ALI GALI TA,5ZHA,2MANCHU ALI GALI qq,5kp,5CA,5ul,5pf,5ka,5TA,5po,5ta,5CYA",
  "5ZHA,5ZA,2ALI GALI dh U,5YA,2MANCHU ALI GALI re,2ALI GALI DAGALGA,2MANCHU ALI GALI LHA",
  "18b0=0CANADIAN SYLLABICS OY,2AY,2AAY,2WAY,2POY,2PAY,2PWOY,2TAY,2KAY,2KWAY,2MAY,2NOY,2NAY,2LAY",
  "2SOY,2SAY,2SHOY,2SHAY,2SHWOY,2YOY,2YAY,2RAY,2NWI,2OJIBWAY NWI,2NWII,2OJIBWAY NWII,2NWO",
  "2OJIBWAY NWO,2NWOO,2OJIBWAY NWOO,2RWEE,2RWI,2RWII,2RWO,2RWOO,2RWA,2OJIBWAY P,3T,3K,3C,3M,3N",
  "3S,3SH,2EASTERN W,2WESTERN W,2ar ad ei,3ig cz,2R-CREE RWE,2bf LOO,3LAA,2THWE,2THWA,2TTHWE",
  "2TTHOO,2TTHAA,2TLHWE,2TLHOO,2vc SHWE,3SHOO,3HOO,2nu GWU,3DENE GEE,3GAA,3GWA,2vc JUU,2nu JWA",
  "2BEAVER DENE L,4R,2nu DENTAL S,1900=0LIMBU VOWEL-CARRIER aa,1aa KA,2lo,2GA,2qq,2kp,2CA,2lg",
  "2JA,2ul,2YAN,2TA,2mh,2DA,2po,2NA,2PA,2nx,2BA,2re,2MA,2YA,2RA,2LA,2WA,2kt,2ta,2SA,2HA,2GYAN",
  "2TRA,1920=1cm ak A,3I,3U,3EE,3AI,3OO,3AU,3E,3O,1sa aa YA,3RA,3WA,1930=1ad aa KA,3kp,3ct,3TA",
  "3NA,3PA,3MA,3RA,3LA,1ak MUKPHRENG,2KEMPHRENG,2SA-I,1940=2LOO,1944=1dw bj,1fc bj,1cr ex,2cs",
  "2co,2aw,2bt,2by,2fx,2bv,2br,2dm,0TAI LE aa KA,3XA,3kp,3zq,3SA,3YA,3TA,3mh,3LA,3PA,3nx,3MA,3FA",
  "3VA,3HA,3QA,3lo,3zr,3NA,3A,3I,3EE,3EH,3U,3OO,3O,3UE,3E,3AUE,3AI,1970=3te,3vi,3TONE-4,3tf",
  "3TONE-6,1980=0NEW TAI LUE aa fz QA,4is QA,4fz KA,5XA,5kp,4is KA,5XA,5kp,4fz zq,5SA,5YA,4is zq",
  "5SA,5YA,4fz TA,5mh,5NA,4is TA,5mh,5NA,4fz PA,5nx,5MA,4is PA,5nx,5MA,4fz FA,5VA,5LA,4is FA,5VA",
  "5LA,4fz HA,5DA,5BA,4is HA,5DA,5BA,4fz KVA,5XVA,4is KVA,5XVA,4fz SUA,4is SUA",
  "19b0=3cm ak cm SHORTENER,5AA,5II,5U,5UU,5E,5AE,5O,5OA,5UE,5AY,5AAY,5UY,5OY,5OAY,5UEY,5IY",
  "3aa ar V,5NG,5N,5M,5K,5D,5B,3fo MARK-1,4MARK-2,19d0=3cr ex,4cs,4co,4aw,4bt,4by,4fx,4bv,4br",
  "4dm,3THAM cr cs,19de=3ak LAE,4LAEV,0KHMER au PATHAMASAT,2MUOY yu,2PII yu,2BEI yu,2BUON yu",
  "2PRAM yu,2PRAM-MUOY yu,2PRAM-PII yu,2PRAM-BEI yu,2PRAM-BUON yu,2DAP yu,2DAP-MUOY yu",
  "2DAP-PII yu,2DAP-BEI yu,2DAP-BUON yu,2DAP-PRAM yu,2TUTEYASAT,2MUOY ROC,2PII ROC,2BEI ROC",
  "2BUON ROC,2PRAM ROC,2PRAM-MUOY ROC,2PRAM-PII ROC,2PRAM-BEI ROC,2PRAM-BUON ROC,2DAP ROC",
  "2DAP-MUOY ROC,2DAP-PII ROC,2DAP-BEI ROC,2DAP-BUON ROC,2DAP-PRAM ROC,0BUGINESE aa KA,2GA,2kp",
  "2NGKA,2PA,2BA,2MA,2MPA,2TA,2DA,2NA,2NRA,2CA,2JA,2lj,2NYCA,2YA,2RA,2LA,2VA,2SA,2A,2HA,1cm ak I",
  "3U,3E,3O,3AE,1a1e=1PALLAWA,1yh OF hi,0TAI THAM aa fz KA,4lo,4KXA,3is KA,4KXA,4lo,3kp,3fz CA",
  "4lg,3is CA,4SA,4lg,3lj,3RATA,3fz RATHA,3DA,3is RATHA,3RANA,3fz TA,4mh,3is TA,4mh,3NA,3BA",
  "3fz PA,4nx,4FA,3is PA,4FA,4nx,3MA,3is YA,3fz YA,3RA,3RUE,3LA,3LUE,3WA,3fz kt,4ta,4SA,4HA,3LLA",
  "3A,3is HA,3I,3II,3U,3UU,3EE,3OO,3LAE,3GREAT SA,2fq ak cf RA,5LA,4LA TANG LAI,2ak MAI KANG LAI",
  "2fq ak ar kp,4is PA,4fz RATHA OR is PA,4MA,4BA,4SA,1a60=2ak SAKOT,2cm ak A,4MAI SAT,4AA",
  "4TALL AA,4I,4II,4UE,4UUE,4U,4UU,4O,4OA aq,4OY,4E,4AE,4OO,4AI,4THAM AI,4OA aj,2ak MAI KANG",
  "3TONE-1,3te,3KHUEN vi,4TONE-4,4tf,3RA HAAM,3MAI SAM,3KHUEN-LUE KARAN,1a7f=2dj il cz",
  "2HORA cr ex,4cs,4co,4aw,4bt,4by,4fx,4bv,4br,4dm,1a90=2THAM cr ex,4cs,4co,4aw,4bt,4by,4fx,4bv",
  "4br,4dm,1aa0=2ak WIANG,3WIANGWAAK,3SAWAN,3KEOW,3HOY,3DOKMAI,3bq cp RANA,3MAI YAMOK,3KAAN",
  "3KAANKUU,3SATKAAN,3SATKAANKUU,3HANG,3CAANG,1ab0=0dj DOUBLED be fs,1DIAERESIS-RING,1uk,1ay ae",
  "1es cz,1X-X aq,1WIGGLY gv aq,1fg bj aq,1al fg bj aq,1cl pm at aq,1STRONG pm at aq",
  "1PARENTHESES aj,1al PARENTHESES aj,1PARENTHESES aq,2ho,1ft ad aa W aq,4ci W aq,1av cd aj av",
  "1ai cd aj ai,1av cd aq av,1ai cd aq ai,1bn BRACKETS aj,1dq ak aj,1ca al ARCH aj,1cy ak aj",
  "1al cy ak aj,4aq,1es db fs,1ft ad aa jd G,5R,5T,1b00=0BALINESE ak ULU RICEM,3mj,2CECEK",
  "2SURANG,2BISAH,1aa AKARA,3qn,2IKARA,3qn,2UKARA,3qn,2RA REPA,4qn,2LA LENGA,4qn,2EKARA,2AIKARA",
  "2OKARA,3qn,2KA,3nk,2GA,3GORA,2kp,2CA,3LACA,2JA,3JERA,2lj,2TA LATIK,3wf nk,2DA wf ALPAPRANA",
  "4nk,2NA RAMBAT,2TA,3TAWA,2DA,3MADU,2NA,2PA,3KAPAL,2BA,3KEMBANG,2MA,2YA,2RA,2LA,2WA,2SA SAGA",
  "3SAPA,3,2HA,1ak REREKAN,1cm ak qn,3ULU,4SARI,3SUKU,4ILUT,3RA REPA,5qn,3LA LENGA,5qn,3TALING",
  "4REPA,4qn,4REPA qn,3PEPET,4qn,1ADEG ADEG,1aa yr SASAK,2KHOT SASAK,2TZIR SASAK,2EF SASAK",
  "2VE SASAK,2ZAL SASAK,2ASYURA SASAK,2iv JNYA,1b50=1cr ex,2cs,2co,2aw,2bt,2by,2fx,2bv,2br,2dm",
  "1PANTI,1PAMADA,1WINDU,1CARIK PAMUNGKAH,2SIKI,2PAREREN,1PAMENENG,1mr au DONG,3DENG,3DUNG,3DANG",
  "4SURANG,3DING,3DAENG,3DEUNG,3DAING,3DANG GEDE,3dj TEGEH,4ENDEP,4KEMPUL,4KEMPLI,4JEGOGAN",
  "4KEMPUL ab JEGOGAN,4KEMPLI ab JEGOGAN,4BENDE,4GONG,3RIGHT-HAND fg DUG,5DAG,4gl TUK,5TAK",
  "3LEFT-HAND fg PANG,5PUNG,4gl PLAK,5PLUK,4fg PING,1PANTI LANTANG,1PAMADA LANTANG",
  "1b80=0SUNDANESE ak PANYECEK,2PANGLAYAR,2PANGWISAD,1aa A,2I,2U,2AE,2O,2E,2EU,2KA,2QA,2GA,2kp",
  "2CA,2JA,2ZA,2lj,2TA,2DA,2NA,2PA,2FA,2VA,2BA,2MA,2YA,2RA,2LA,2WA,2SA,2XA,2HA,1fq ak PAMINGKAL",
  "3PANYAKRA,3PANYIKU,1cm ak PANGHULU,3PANYUKU,3PANAELAENG,3PANOLONG,3PAMEPET,3PANEULEUNG",
  "1ak PAMAAEH,2fm,1fq ak PASANGAN MA,4WA,1aa lo,2SYA,1cr ex,2cs,2co,2aw,2bt,2by,2fx,2bv,2br,2dm",
  "1io,1aa REU,2LEU,2re,2ar K,3M,0BATAK aa A,2jj A,2HA,2jj HA,2MANDAILING HA,2BA,2KARO BA,2PA",
  "2jj PA,2NA,2MANDAILING NA,2WA,2jj WA,2PAKPAK WA,2GA,2jj GA,2JA,2DA,2RA,2jj RA,2MA,2jj MA",
  "2SOUTHERN TA,2NORTHERN TA,2SA,2jj SA,2MANDAILING SA,2YA,2jj YA,2kp,2LA,2jj LA,2lj,2CA,2NDA",
  "2MBA,2I,2U,1ak TOMPI,1cm ak E,3PAKPAK E,3EE,3I,3KARO I,3O,3KARO O,3U,4to jj SA,1fq ak NG,3H",
  "1PANGOLAT,1PANONGONAN,1bfc=1au BINDU NA METEK,3PINARBORAS,3JUDUL,3PANGOLAT,0LEPCHA aa KA,2KLA",
  "2lo,2GA,2GLA,2kp,2CA,2lg,2JA,2lj,2TA,2mh,2DA,2NA,2PA,2PLA,2nx,2FA,2FLA,2BA,2BLA,2MA,2MLA,2zq",
  "2zr,2DZA,2YA,2RA,2LA,2HA,2HLA,2VA,2SA,2kt,2WA,2A,1sa aa YA,3RA,1cm ak AA,3I,3O,3OO,3U,3UU,3E",
  "1fq ak K,3M,3L,3N,3P,3R,3T,3NYIN-DO,3KANG,1ak RAN,2kq,1c3b=1cc TA-ROL,2NYET THYOOM TA-ROL",
  "2CER-WA,2TSHOOK CER-WA,3,1cr ex,2cs,2co,2aw,2bt,2by,2fx,2bv,2br,2dm,1c4d=1aa pf,2jv,2ph",
  "0OL CHIKI cr ex,3cs,3co,3aw,3bt,3by,3fx,3bv,3br,3dm,2aa LA,3AT,3AG,3ANG,3AL,3LAA,3AAK,3AAJ",
  "3AAM,3AAW,3LI,3IS,3IH,3INY,3IR,3LU,3UC,3UD,3UNN,3UY,3LE,3EP,3EDD,3EN,3ERR,3LO,3OTT,3OB,3OV",
  "3OH,2MU TTUDDAG,2GAAHLAA TTUDDAAG,2MU-GAAHLAA TTUDDAAG,2RELAA,2PHAARKAA,2AHAD,2cc MUCAAD",
  "3al MUCAAD,0jr ad aa pc VE,3LONG-LEGGED DE,3NARROW O,3WIDE ES,3TALL TE,3THREE-LEGGED TE",
  "3TALL HARD ak,4YAT,3UNBLENDED UK,1c90=0yl MTAVRULI ac aa AN,4BAN,4GAN,4DON,4EN,4VIN,4ZEN,4TAN",
  "4IN,4KAN,4LAS,4MAN,4NAR,4ON,4PAR,4ZHAR,4RAE,4SAN,4TAR,4UN,4PHAR,4KHAR,4GHAN,4QAR,4mw,4CHIN",
  "4CAN,4JIL,4CIL,4CHAR,4XAN,4JHAN,4HAE,4HE,4HIE,4WE,4HAR,4HOE,4FI,4YN,4ELIFI,4ci GAN,4wa",
  "1cbd=4AEN,4HARD ak,4LABIAL ak,0SUNDANESE cc BINDU SURYA,3PANGLONG,3PURNAMA,3CAKRA",
  "3LEU SATANGA,3KA SATANGA,3DA SATANGA,3BA SATANGA,1cd0=0VEDIC fo KARSHANA,2SHARA,2PRENKHA",
  "1ak NIHSHVASA,2YAJURVEDIC MIDLINE pe,1fo YAJURVEDIC AGGRAVATED kw pe,3kw pe,3KATHAKA kw pe",
  "2mj aq,2YAJURVEDIC KATHAKA kw pe SCHROEDER,2al pe,2es pe,2KATHAKA xr,2cz aq,2co du aq",
  "2aw du aq,2RIGVEDIC KASHMIRI kw pe,2ATHARVAVEDIC kw pe,1ak ew pe,3UDATTA,2bq ew UDATTA,2ew xr",
  "2bq ew xr,2ew UDATTA ab hw,3xr ab hw,2ct ANTARGOMUKHA,3BAHIRGOMUKHA,3VAMAGOMUKHA,4ab hw",
  "2TIRYAK,2HEXIFORM fk ct,2fk ct,2RTHANG fk ct,2ct UBHAYATO MUKHA,2ARDHAVISARGA",
  "2cp ARDHAVISARGA,1fo mj aj,1ak oe,2om,2ATIKRAMA,1fo ei aj,2al ei aj,1ak al ct ANTARGOMUKHA",
  "1d00=0ft aa ad ac A,4AE,1ad aa ci AE,1aa ad ac se B,4C,4D,4ETH,4E,1ad aa ci fg E,4I",
  "1aa ad ac J,4K,4L ab at,4M,4bq N,4O,4fg O,1ad aa ok O,4fg O,4O ab at,3ci OE,1aa ad ac OU",
  "1ad aa sb dh O,3gz dh O,1aa ad ac P,4bq R,4ci R,4T,4U,1ad aa ok U,4DIAERESIZED U,4ci M",
  "1aa ad ac V,4W,4Z,4EZH,2tg LARYNGEAL SPIRANT,2wa,0kn aa ad ac lh,4rv,4PI,4RHO,4PSI",
  "0jr aa ad ac EL,0ev aa ac A,3AE,3B,3se B,3D,3E,3bq E,3G,3H,3I,3J,3K,3L,3M,3N,3bq N,3O,3OU,3P",
  "3R,3T,3U,3W,2ad A,3ci A,3ik,3ci AE,3B,3D,3E,3zm,3fg E,3ci fg E,3G,3ci I,3K,3M,3ENG,3O,3fg O",
  "3sb dh O,3gz dh O,3P,3T,3U,3ok U,3ci M,3V,3wa,3tn,3kn lh,3mk,3kn PHI,3CHI,0ft pj ad aa I,4R",
  "4U,4V,0kn pj ad aa tn,4lh,4RHO,4PHI,4CHI,0ft ad aa UE,3B ab bb cq,3D ab bb cq,3F ab bb cq",
  "3M ab bb cq,3N ab bb cq,3P ab bb cq,3R ab bb cq,5rt bi bb cq,3S ab bb cq,3T ab bb cq",
  "3Z ab bb cq,3ci G,0ev aa jr EN,0ft ad aa jd G,3TH ab STRIKETHROUGH,2ac aa I ab at",
  "2aa mg ab at,3P ab at,2ac aa U ab at,2aa gp ab at,3B ab gg bw,3D ab gg bw,3F ab gg bw",
  "3G ab gg bw,3K ab gg bw,3L ab gg bw,3M ab gg bw,3N ab gg bw,3P ab gg bw,3R ab gg bw",
  "3S ab gg bw,3ESH ab gg bw,3V ab gg bw,3X ab gg bw,3Z ab gg bw,3A ab cx bw,3ik ab cx bw",
  "3D ab bw bi hw,3E ab cx bw,3fg E ab cx bw,3bq fg E ab cx bw,3zm ab cx bw,3I ab cx bw",
  "3fg O ab cx bw,3ESH ab cx bw,3U ab cx bw,3EZH ab cx bw,0ev aa ad ci ik,3C,4ab rf,3ETH",
  "3bq fg E,3F,3la J ab at,3it G,3ci H,3I ab at,3mg,3ac I,5ab at,3J ab jb,3L ab cx bw,5gg bw",
  "3ac L,3M ab bw,3ci M ab fk LEG,3N ab av bw,5cx bw,3ac N,3se O,3PHI,3S ab bw,3ESH,3T ab gg bw",
  "3U ge,3gp,3ac U,3V ab bw,3ci V,3Z,4ab cx bw,5rf,3EZH,3ks,0dj fy ef fs,2db fs,1SNAKE aq",
  "1SUSPENSION bj,1MACRON-ACUTE,1GRAVE-MACRON,1MACRON-GRAVE,1ACUTE-MACRON,1GRAVE-ACUTE-GRAVE",
  "1ACUTE-GRAVE-ACUTE,1ft ad aa R aq,1BREVE-MACRON,1MACRON-BREVE,1al be aj,1mu aj,1xp aq,1IS aq",
  "1UR aj,1US aj,1ft ad aa FLATTENED fg A aj,4AE,4AO,4AV,4C gf,4jd D,4ETH,4G,2aa ad ac G",
  "2ad aa K,4L,2aa ad ac L,5M,2ad aa N,2aa ad ac N,5R,2ad aa R ROTUNDA,4S,4fk S,4Z,4ik,4B,4tn",
  "4zm,4F,4L ab al bb cq,4O ab cl pm at,4P,4ESH,4U ab cl pm at,4W,4A ab bk,4O ab bk,4U ab bk",
  "1UP lf aj,1KAVYKA aj ai,3av,1cz aj av,1WIDE ca BRIDGE aq,1cz aq av,1DELETION bj,1al ca ff aq",
  "1lt cj TO aq,1av bm aj,1ai bm bi dg bm aq,0ft ac aa A ab ei aq,1ad aa A ab ei aq",
  "1ac aa B ab cz aj,1ad aa B ab cz aj,1ac aa B ab cz aq,1ad aa B ab cz aq,1ac aa B ab gv aq",
  "1ad aa B ab gv aq,1ac aa C ab gf bi db,1ad aa C ab gf bi db,1ac aa D ab cz aj",
  "1ad aa D ab cz aj,1ac aa D ab cz aq,1ad aa D ab cz aq,1ac aa D ab gv aq,1ad aa D ab gv aq",
  "1ac aa D ab gf,1ad aa D ab gf,1ac aa D ab be aq,1ad aa D ab be aq,1ac aa E ab dp bi ef",
  "1ad aa E ab dp bi ef,1ac aa E ab dp bi db,1ad aa E ab dp bi db,1ac aa E ab be aq",
  "1ad aa E ab be aq,1ac aa E ab cq aq,1ad aa E ab cq aq,1ac aa E ab gf bi ff",
  "1ad aa E ab gf bi ff,1ac aa F ab cz aj,1ad aa F ab cz aj,1ac aa G ab dp,1ad aa G ab dp",
  "1ac aa H ab cz aj,1ad aa H ab cz aj,1ac aa H ab cz aq,1ad aa H ab cz aq,1ac aa H ab bk",
  "1ad aa H ab bk,1ac aa H ab gf,1ad aa H ab gf,1ac aa H ab ff aq,1ad aa H ab ff aq",
  "1ac aa I ab cq aq,1ad aa I ab cq aq,1ac aa I ab bk bi db,1ad aa I ab bk bi db,1ac aa K ab db",
  "1ad aa K ab db,1ac aa K ab cz aq,1ad aa K ab cz aq,1ac aa K ab gv aq,1ad aa K ab gv aq",
  "1ac aa L ab cz aq,1ad aa L ab cz aq,1ac aa L ab cz aq bi dp,1ad aa L ab cz aq bi dp",
  "1ac aa L ab gv aq,1ad aa L ab gv aq,1ac aa L ab be aq,1ad aa L ab be aq,1ac aa M ab db",
  "1ad aa M ab db,1ac aa M ab cz aj,1ad aa M ab cz aj,1ac aa M ab cz aq,1ad aa M ab cz aq",
  "1ac aa N ab cz aj,1ad aa N ab cz aj,1ac aa N ab cz aq,1ad aa N ab cz aq,1ac aa N ab gv aq",
  "1ad aa N ab gv aq,1ac aa N ab be aq,1ad aa N ab be aq,1ac aa O ab cq bi db",
  "1ad aa O ab cq bi db,1ac aa O ab cq bi bk,1ad aa O ab cq bi bk,1ac aa O ab dp bi ef",
  "1ad aa O ab dp bi ef,1ac aa O ab dp bi db,1ad aa O ab dp bi db,1ac aa P ab db,1ad aa P ab db",
  "1ac aa P ab cz aj,1ad aa P ab cz aj,1ac aa R ab cz aj,1ad aa R ab cz aj,1ac aa R ab cz aq",
  "1ad aa R ab cz aq,1ac aa R ab cz aq bi dp,1ad aa R ab cz aq bi dp,1ac aa R ab gv aq",
  "1ad aa R ab gv aq,1ac aa S ab cz aj,1ad aa S ab cz aj,1ac aa S ab cz aq,1ad aa S ab cz aq",
  "1ac aa S ab db bi cz aj,1ad aa S ab db bi cz aj,1ac aa S ab gs bi cz aj",
  "1ad aa S ab gs bi cz aj,1ac aa S ab cz aq bi cz aj,1ad aa S ab cz aq bi cz aj",
  "1ac aa T ab cz aj,1ad aa T ab cz aj,1ac aa T ab cz aq,1ad aa T ab cz aq,1ac aa T ab gv aq",
  "1ad aa T ab gv aq,1ac aa T ab be aq,1ad aa T ab be aq,1ac aa U ab bk aq,1ad aa U ab bk aq",
  "1ac aa U ab cq aq,1ad aa U ab cq aq,1ac aa U ab be aq,1ad aa U ab be aq,1ac aa U ab cq bi db",
  "1ad aa U ab cq bi db,1ac aa U ab dp bi bk,1ad aa U ab dp bi bk,1ac aa V ab cq,1ad aa V ab cq",
  "1ac aa V ab cz aq,1ad aa V ab cz aq,1ac aa W ab ef,1ad aa W ab ef,1ac aa W ab db",
  "1ad aa W ab db,1ac aa W ab bk,1ad aa W ab bk,1ac aa W ab cz aj,1ad aa W ab cz aj",
  "1ac aa W ab cz aq,1ad aa W ab cz aq,1ac aa X ab cz aj,1ad aa X ab cz aj,1ac aa X ab bk",
  "1ad aa X ab bk,1ac aa Y ab cz aj,1ad aa Y ab cz aj,1ac aa Z ab be,1ad aa Z ab be",
  "1ac aa Z ab cz aq,1ad aa Z ab cz aq,1ac aa Z ab gv aq,1ad aa Z ab gv aq,3H ab gv aq,3T ab bk",
  "3W ab ei aj,3Y ab ei aj,3A ab ai dh ei,3fk S ab cz aj,6dl at,6fz at,1ac aa SHARP S,1ad aa mk",
  "1ac aa A ab cz aq,1ad aa A ab cz aq,1ac aa A ab bw aj,1ad aa A ab bw aj,1ac aa A ab be bi db",
  "1ad aa A ab be bi db,1ac aa A ab be bi ef,1ad aa A ab be bi ef,1ac aa A ab be bi bw aj",
  "1ad aa A ab be bi bw aj,1ac aa A ab be bi cq,1ad aa A ab be bi cq,1ac aa A ab be bi cz aq",
  "1ad aa A ab be bi cz aq,1ac aa A ab ff bi db,1ad aa A ab ff bi db,1ac aa A ab ff bi ef",
  "1ad aa A ab ff bi ef,1ac aa A ab ff bi bw aj,1ad aa A ab ff bi bw aj,1ac aa A ab ff bi cq",
  "1ad aa A ab ff bi cq,1ac aa A ab ff bi cz aq,1ad aa A ab ff bi cz aq,1ac aa E ab cz aq",
  "1ad aa E ab cz aq,1ac aa E ab bw aj,1ad aa E ab bw aj,1ac aa E ab cq,1ad aa E ab cq",
  "1ac aa E ab be bi db,1ad aa E ab be bi db,1ac aa E ab be bi ef,1ad aa E ab be bi ef",
  "1ac aa E ab be bi bw aj,1ad aa E ab be bi bw aj,1ac aa E ab be bi cq,1ad aa E ab be bi cq",
  "1ac aa E ab be bi cz aq,1ad aa E ab be bi cz aq,1ac aa I ab bw aj,1ad aa I ab bw aj",
  "1ac aa I ab cz aq,1ad aa I ab cz aq,1ac aa O ab cz aq,1ad aa O ab cz aq,1ac aa O ab bw aj",
  "1ad aa O ab bw aj,1ac aa O ab be bi db,1ad aa O ab be bi db,1ac aa O ab be bi ef",
  "1ad aa O ab be bi ef,1ac aa O ab be bi bw aj,1ad aa O ab be bi bw aj,1ac aa O ab be bi cq",
  "1ad aa O ab be bi cq,1ac aa O ab be bi cz aq,1ad aa O ab be bi cz aq,1ac aa O ab le bi db",
  "1ad aa O ab le bi db,1ac aa O ab le bi ef,1ad aa O ab le bi ef,1ac aa O ab le bi bw aj",
  "1ad aa O ab le bi bw aj,1ac aa O ab le bi cq,1ad aa O ab le bi cq,1ac aa O ab le bi cz aq",
  "1ad aa O ab le bi cz aq,1ac aa U ab cz aq,1ad aa U ab cz aq,1ac aa U ab bw aj",
  "1ad aa U ab bw aj,1ac aa U ab le bi db,1ad aa U ab le bi db,1ac aa U ab le bi ef",
  "1ad aa U ab le bi ef,1ac aa U ab le bi bw aj,1ad aa U ab le bi bw aj,1ac aa U ab le bi cq",
  "1ad aa U ab le bi cq,1ac aa U ab le bi cz aq,1ad aa U ab le bi cz aq,1ac aa Y ab ef",
  "1ad aa Y ab ef,1ac aa Y ab cz aq,1ad aa Y ab cz aq,1ac aa Y ab bw aj,1ad aa Y ab bw aj",
  "1ac aa Y ab cq,1ad aa Y ab cq,1ac aa sr LL,1ad aa sr LL,1ac aa sr V,1ad aa sr V",
  "1ac aa Y ab uq,1ad aa Y ab uq,0kn ad aa ik ab dx,5dv,5dx bi eq,5dv bi eq,5dx bi he,5dv bi he",
  "5dx bi bz,5dv bi bz,1ac aa ik ab dx,5dv,5dx bi eq,5dv bi eq,5dx bi he,5dv bi he,5dx bi bz",
  "5dv bi bz,1ad aa gx ab dx,5dv,5dx bi eq,5dv bi eq,5dx bi he,5dv bi he,1f18=1ac aa gx ab dx",
  "5dv,5dx bi eq,5dv bi eq,5dx bi he,5dv bi he,1f20=1ad aa ETA ab dx,5dv,5dx bi eq,5dv bi eq",
  "5dx bi he,5dv bi he,5dx bi bz,5dv bi bz,1ac aa ETA ab dx,5dv,5dx bi eq,5dv bi eq,5dx bi he",
  "5dv bi he,5dx bi bz,5dv bi bz,1ad aa mg ab dx,5dv,5dx bi eq,5dv bi eq,5dx bi he,5dv bi he",
  "5dx bi bz,5dv bi bz,1ac aa mg ab dx,5dv,5dx bi eq,5dv bi eq,5dx bi he,5dv bi he,5dx bi bz",
  "5dv bi bz,1ad aa jg ab dx,5dv,5dx bi eq,5dv bi eq,5dx bi he,5dv bi he,1f48=1ac aa jg ab dx",
  "5dv,5dx bi eq,5dv bi eq,5dx bi he,5dv bi he,1f50=1ad aa gp ab dx,5dv,5dx bi eq,5dv bi eq",
  "5dx bi he,5dv bi he,5dx bi bz,5dv bi bz,1f59=1ac aa gp ab dv,1f5b=6bi eq,1f5d=7he,1f5f=7bz",
  "1ad aa hs ab dx,5dv,5dx bi eq,5dv bi eq,5dx bi he,5dv bi he,5dx bi bz,5dv bi bz",
  "1ac aa hs ab dx,5dv,5dx bi eq,5dv bi eq,5dx bi he,5dv bi he,5dx bi bz,5dv bi bz",
  "1ad aa ik ab eq,5he,3gx ab eq,5he,3ETA ab eq,5he,3mg ab eq,5he,3jg ab eq,5he,3gp ab eq,5he",
  "3hs ab eq,5he,1f80=3ik ab dx bi bx,5dv bi bx,5dx bi eq bi bx,5dv bi eq bi bx,5dx bi he bi bx",
  "5dv bi he bi bx,5dx bi bz bi bx,5dv bi bz bi bx,1ac aa ik ab dx bi cg,5dv bi cg",
  "5dx bi eq bi cg,5dv bi eq bi cg,5dx bi he bi cg,5dv bi he bi cg,5dx bi bz bi cg",
  "5dv bi bz bi cg,1ad aa ETA ab dx bi bx,5dv bi bx,5dx bi eq bi bx,5dv bi eq bi bx",
  "5dx bi he bi bx,5dv bi he bi bx,5dx bi bz bi bx,5dv bi bz bi bx,1ac aa ETA ab dx bi cg",
  "5dv bi cg,5dx bi eq bi cg,5dv bi eq bi cg,5dx bi he bi cg,5dv bi he bi cg,5dx bi bz bi cg",
  "5dv bi bz bi cg,1ad aa hs ab dx bi bx,5dv bi bx,5dx bi eq bi bx,5dv bi eq bi bx",
  "5dx bi he bi bx,5dv bi he bi bx,5dx bi bz bi bx,5dv bi bz bi bx,1ac aa hs ab dx bi cg",
  "5dv bi cg,5dx bi eq bi cg,5dv bi eq bi cg,5dx bi he bi cg,5dv bi he bi cg,5dx bi bz bi cg",
  "5dv bi bz bi cg,1ad aa ik ab VRACHY,5dp,5eq bi bx,5bx,5he bi bx,1fb6=5bz,6bi bx",
  "1ac aa ik ab VRACHY,5dp,5eq,5he,5cg,1KORONIS,1cg,1dx,1bz,1in bi bz,1ad aa ETA ab eq bi bx,5bx",
  "5he bi bx,1fc6=5bz,6bi bx,1ac aa gx ab eq,5he,3ETA ab eq,5he,5cg,1dx bi eq,3he,3bz",
  "1ad aa mg ab VRACHY,5dp,5in bi eq,7he,1fd6=5bz,5in bi bz,1ac aa mg ab VRACHY,5dp,5eq,5he",
  "1fdd=1dv bi eq,3he,3bz,1ad aa gp ab VRACHY,5dp,5in bi eq,7he,3RHO ab dx,5dv,3gp ab bz",
  "5in bi bz,1ac aa gp ab VRACHY,5dp,5eq,5he,3RHO ab dv,1in bi eq,3he,1eq",
  "1ff2=1ad aa hs ab eq bi bx,5bx,5he bi bx,1ff6=5bz,6bi bx,1ac aa jg ab eq,5he,3hs ab eq,5he",
  "5cg,1he,1dv,2000=0EN QUAD,0EM QUAD,0EN ll,0EM ll,0THREE-PER-EM ll,0FOUR-PER-EM ll",
  "0SIX-PER-EM ll,0FIGURE ll,0cc ll,0THIN ll,0HAIR ll,0ex WIDTH ll,2NON-JOINER,2JOINER,0nw bj",
  "0rm bj,0py,0NON-BREAKING py,0FIGURE jw,0EN jw,0EM jw,0as ge,0al an gv,1is gv,0av de eg bj",
  "0ai de eg bj,0de LOW-9 eg bj,1HIGH-REVERSED-9 eg bj,0av al eg bj,0ai al eg bj,0al LOW-9 eg bj",
  "1HIGH-REVERSED-9 eg bj,0DAGGER,0al DAGGER,0ne,0ez ne,0cs cz LEADER,0co cz LEADER,0as ps",
  "0HYPHENATION tk,0gv fh,0vr fh,0nw EMBEDDING,0rm EMBEDDING,0POP DIRECTIONAL FORMATTING",
  "0nw OVERRIDE,0rm OVERRIDE,0NARROW NO-BREAK ll,0PER MILLE ak,1jx ba ak,0uv,0al uv,0es uv",
  "0bq uv,1al uv,1es uv,0xw,0de eb fr eg bj,1da fr eg bj,0REFERENCE bj,0al dw bj,0qx,0qg",
  "0UNDERTIE,0ma TIE,0xw INSERTION tk,0ASTERISM,0py ne,0hq qk,0av bn bd ab QUILL",
  "0ai bn bd ab QUILL,0al fc bj,0fc dw bj,0dw fc bj,0TIRONIAN ak ET,0bq PILCROW ak,0ax am ne",
  "1ah ne,0is di,0bq jt,0CLOSE UP,0co ASTERISKS ALIGNED nq,0sk og ak,0SWUNG jw,0ca UNDERTIE",
  "0FLOWER cc bj,0aw cz cc,0kj uv,0bt cz cc,0by cz cc,0co cz cc,0bt cz bj,0fy gr,0TRICOLON",
  "0an bt du,0ce mq ll,0zv JOINER,0FUNCTION APPLICATION,0INVISIBLE bs,1fh,1cy,2066=0nw ISOLATE",
  "0rm ISOLATE,0FIRST STRONG ISOLATE,0POP DIRECTIONAL ISOLATE,0INHIBIT SYMMETRIC SWAPPING",
  "0ACTIVATE SYMMETRIC SWAPPING,0INHIBIT kk af SHAPING,0ACTIVATE kk af SHAPING",
  "0NATIONAL cr SHAPES,0NOMINAL cr SHAPES,0hm ex,1ft ad aa I,2074=1bt,1by,1fx,1bv,1br,1dm,1cy ak",
  "1og,1gn ak,1av cd,1ai cd,1ft ad aa N,0pj ex,1cs,1co,1aw,1bt,1by,1fx,1bv,1br,1dm,1cy ak,1og",
  "1gn ak,1av cd,1ai cd,2090=0ft pj ad aa A,4E,4O,4X,4zm,4H,4K,4L,4M,4N,4P,4S,4T",
  "20a0=0EURO-CURRENCY ak,0iw ak,0CRUZEIRO ak,0FRENCH FRANC ak,0LIRA ak,0MILL ak,0NAIRA ak",
  "0PESETA ak,0RUPEE ak,0WON ak,0NEW SHEQEL ak,0DONG ak,0EURO ak,0KIP ak,0TUGRIK ak,0DRACHMA ak",
  "0GERMAN PENNY ak,0PESO ak,0GUARANI ak,0AUSTRAL ak,0HRYVNIA ak,0CEDI ak,0LIVRE TOURNOIS ak",
  "0SPESMILO ak,0TENGE ak,0INDIAN RUPEE ak,0TURKISH LIRA ak,0NORDIC bj ak,0MANAT ak,0RUBLE ak",
  "0LARI ak,0BITCOIN ak,0SOM ak,20d0=0dj av dd aj,1ai dd aj,1fk an gv ho,1fu an gv ho,1ek ae aj",
  "1iy ae aj,1av ae aj,1ai ae aj,1ei ho,1iy ei ho,1ek ei ho,1aw du aj,1bt du aj,1ENCLOSING bo",
  "2bn,2ej,2bo pg,1av ai ae aj,1ENCLOSING SCREEN,2KEYCAP,2UPWARD cb bg,1ie hj ho,1al an at ho",
  "1ANNUITY au,1es UNDERDOT,1WIDE BRIDGE aj,1am ae ho,1fk al hj ho,1ah dd ab en ay",
  "1am dd ab en ay,1av ae aq,1ai ae aq,1di aj,2100=0ACCOUNT OF,0ADDRESSED TO tr SUBJECT,0hf ac C",
  "0DEGREE CELSIUS,0dz gv au,0CARE OF,0CADA UNA,0EULER CONSTANT,0SCRUPLE,0DEGREE FAHRENHEIT",
  "0it ad G,1ac H,0ox ac H,0hf ac H,0PLANCK CONSTANT,2dy co PI,0it ac I,0ox ac I,0it ac L,1ad L",
  "0L B ge au,0hf ac N,0NUMERO ak,0ov RECORDING COPYRIGHT,0it ac P,0hf ac P,2Q,0it ac R,0ox ac R",
  "0hf ac R,0PRESCRIPTION TAKE,0RESPONSE,0SERVICE bj,0ju ak,0TRADE bj ak,0VERSICLE,0hf ac Z",
  "0OUNCE ak,0OHM ak,0ca OHM ak,0ox ac Z,0ci kn ad aa mg,0KELVIN ak,0ANGSTROM ak,0it ac B",
  "0ox ac C,0ESTIMATED au,0it ad E,1ac E,2F,0ci ac F,0it ac M,1ad O,0ea au,0BET au,0pw au",
  "0DALET au,0INFORMATION SOURCE,0cp ac Q,0FACSIMILE ak,0hf ad PI,2lh,1ac lh,2PI",
  "1N-ARY SUMMATION,0ci er ac G,3L,0bq er ac L,0ci er ac Y,0hf ri ac D,2ad D,3E,3I,3J",
  "0PROPERTY gv,0ci nd,0PER ak,0AKTIESELSKAB,0ci ad F,0au to SAMARITAN SOURCE",
  "0VULGAR hq cs SEVENTH,3NINTH,3TENTH,3tl,2co vh,2cs FIFTH,2co FIFTHS,2aw FIFTHS,2bt FIFTHS",
  "2cs SIXTH,2by SIXTHS,2cs hy,2aw km,2by km,2bv km,0hq NUMERATOR cs,0ROMAN pb cs,2co,2aw,2bt",
  "2by,2fx,2bv,2br,2dm,2jx,2pr,2np,2im,2cs az,2by az,2cs ba,0ad ROMAN pb cs,3co,3aw,3bt,3by,3fx",
  "3bv,3br,3dm,3jx,3pr,3np,3im,3cs az,3by az,3cs ba,0ROMAN pb cs ba C D,2by ba,2jx ba,2bq cs az",
  "0ft ad aa bq C,0ROMAN pb fx LATE af,2im EARLY af,3ba,2cs az ba,0VULGAR hq ex vh,0ci cr co,2aw",
  "2190=0am ae,0bp ae,0ah ae,0ay ae,0av ai ae,0UP dg ae,0gi ic ae,1hc ae,0gy hc ae,1ic ae",
  "0am ae ab at,0ah ae ab at,0am rn ae,0ah rn ae,0am co HEADED ae,0bp co HEADED ae",
  "0ah co HEADED ae,0ay co HEADED ae,0am ae ab hw,0ah ae ab hw,0am ae me ge,0bp ae me ge",
  "0ah ae me ge,0ay ae me ge,0UP dg ae ab BASE,0am ae ab bw,0ah ae ab bw,0am ae ab uq",
  "0ah ae ab uq,0av ai rn ae,2ae ab at,0ay xp ae,0bp ae ab TIP am,4ah,0ay ae ab TIP am,4ah",
  "0ah ae ab ha ay,0ay ae ab ha am,0ek sb sx ae,0iy sb sx ae,0gi ic ae TO fk ge",
  "0am ae TO ge dy ah ae TO ge,0ek fg bo ae,0iy fg bo ae,0am dd ab en bp,4ay,0bp dd ab en ah,4am",
  "0ah dd ab en bp,4ay,0ay dd ab en ah,4am,0ah ae dy am ae,0bp ae am OF ay ae,0am ae dy ah ae",
  "1xc lu,0bp xc lu,0ah xc lu,0ay xc lu,0am dd dy ah dd,0ah dd dy am dd,0am al ae ab at",
  "0av ai al ae ab at,0ah al ae ab at,0am al ae,0bp al ae,0ah al ae,0ay al ae,0av ai al ae",
  "0UP dg al ae,0gi ic al ae,1hc al ae,0gy hc al ae,1ic al ae,0am es ae,0ah es ae",
  "0am SQUIGGLE ae,0ah SQUIGGLE ae,0bp ae ab al at,0ay ae ab al at,0am on ae,0bp on ae,0ah on ae",
  "0ay on ae,0am ae TO ge,0ah ae TO ge,0am bc ae,0bp bc ae,0ah bc ae,0ay bc ae,0bp bc ae me ge",
  "3ON PEDESTAL,5ab as ge,6an ge,2al ae,4ON PEDESTAL,0ah bc ae me WALL,0gi ic ae TO ha",
  "0gy hc ae TO ha,0UP dg bc ae,0ai ae ab ad bo,0ay ae am OF bp ae,0aw ah lu,0am ae ab an at",
  "0ah ae ab an at,0av ai ae ab an at,0am ae ab al an at,0ah ae ab al an at",
  "0av ai ae ab al an at,0am OPEN-HEADED ae,0ah OPEN-HEADED ae,0av ai OPEN-HEADED ae,0to ALL",
  "0COMPLEMENT,0zc ml,0THERE EXISTS,1DOES mt EXIST,0EMPTY SET,0INCREMENT,0NABLA,0oy OF",
  "0mt AN oy OF,0ad oy OF,0pn AS MEMBER,0DOES mt CONTAIN AS MEMBER,0ad pn AS MEMBER,0yh OF PROOF",
  "0N-ARY ls,1COPRODUCT,1SUMMATION,0og ak,0MINUS-OR-PLUS ak,0cz cy,0pp qk,0SET og,0di do,0ei do",
  "0ne do,0bn ROOT,0CUBE ROOT,0FOURTH ROOT,0PROPORTIONAL TO,0uk,0ai fr,0fr,0yx fr,0SPHERICAL fr",
  "0DIVIDES,0DOES mt DIVIDE,0qh TO,0mt qh TO,0lp bi,1OR,0fd,0ow,0hr,0al hr,0es hr,0CONTOUR hr",
  "0SURFACE hr,0VOLUME hr,0iy hr,1CONTOUR hr,0ek CONTOUR hr,0THEREFORE,0BECAUSE,0RATIO",
  "0PROPORTION,0cz og,0EXCESS,0GEOMETRIC PROPORTION,0HOMOTHETIC,0cq do,0bq cq,0ca LAZY S",
  "0SINE rn,0WREATH ls,0mt cq,0og cq,0ASYMPTOTICALLY cj TO,0mt ASYMPTOTICALLY cj TO,0nt cj TO",
  "1BUT mt ACTUALLY cj TO,0NEITHER nt NOR ACTUALLY cj TO,0lt cj TO,0mt lt cj TO,0lt cj OR cj TO",
  "0es cq,0ALL cj TO,0hg TO,0GEOMETRICALLY hg TO,0DIFFERENCE jn,0APPROACHES tr LIMIT",
  "0GEOMETRICALLY cj TO,0nt cj TO OR tr IMAGE OF,0IMAGE OF OR nt cj TO,0iw gn,0gn iw",
  "0ei IN cj TO,1cj TO,0CORRESPONDS TO,0ESTIMATES,0EQUIANGULAR TO,0hk gn,0mk cj TO",
  "0cj TO BY DEFINITION,0yx BY,0QUESTIONED cj TO,0mt cj TO,0IDENTICAL TO,0mt IDENTICAL TO",
  "0STRICTLY hg TO,0bu OR cj TO,0bh OR cj TO,0bu dy cj TO,0bh dy cj TO,0bu BUT mt cj TO",
  "0bh BUT mt cj TO,0MUCH bu,1bh,0jn,0mt hg TO,1bu,1bh,0NEITHER bu NOR cj TO,1bh NOR cj TO",
  "0bu OR hg TO,0bh OR hg TO,0NEITHER bu NOR hg TO,1bh NOR hg TO,0bu OR bh,0bh OR bu",
  "0NEITHER bu NOR bh,1bh NOR bu,0kf,0ki,0kf OR cj TO,0ki OR cj TO,0kf OR hg TO,0ki OR hg TO",
  "0DOES mt PRECEDE,2SUCCEED,0ih OF,0gk OF,0mt A ih OF,2gk OF,0ih OF OR cj TO,0gk OF OR cj TO",
  "0NEITHER A ih OF NOR cj TO,2gk OF NOR cj TO,0ih OF ab mt cj TO,0gk OF ab mt cj TO,0MULTISET",
  "1gw,1ow,0bn IMAGE OF,1zb OF,1IMAGE OF OR cj TO,1zb OF OR cj TO,1CAP,1CUP,0dk cy,1og,1bs",
  "1pp qk,1cz do,1ei do,1di do,1gn,1jw,0fb cy,1og,1bs,1cz do,0ai lf,0av lf,0dg lf,0UP lf",
  "0ASSERTION,0MODELS,0TRUE,0FORCES,0es an ge ai no,0al an ge al ai no,0DOES mt PROVE,0mt TRUE",
  "0DOES mt FORCE,0NEGATED al an ge al ai no,0kf UNDER RELATION,0ki UNDER RELATION,0ss ql OF",
  "0pn AS ss ql,0ss ql OF OR cj TO,0pn AS ss ql OR cj TO,0zb OF,0IMAGE OF,0MULTIMAP",
  "0HERMITIAN CONJUGATE MATRIX,0INTERCALATE,0XOR,0NAND,0NOR,0ai fr ab ARC,1bg,0N-ARY lp bi,2OR",
  "1fd,1ow,0ej do,0cz do,0hk do,0pp bs,0BOWTIE,0av ss FACTOR sy ls,0ai ss FACTOR sy ls,0av sy ls",
  "0ai sy ls,0bq cq gn,0kc lp OR,2bi,0al ih,1gk,1fd,1ow,0PITCHFORK,0cj bi qh TO,0bu ab cz",
  "0bh ab cz,0nr MUCH bu,2bh,0bu cj TO OR bh,0bh cj TO OR bu,0cj TO OR bu,3bh,3kf,3ki",
  "0DOES mt PRECEDE OR cj,2SUCCEED OR cj,0mt bn IMAGE OF OR cj TO,2zb OF OR cj TO",
  "0bn IMAGE OF OR mt cj TO,1zb OF OR mt cj TO,0bu BUT mt hg TO,0bh BUT mt hg TO",
  "0kf BUT mt hg TO,0ki BUT mt hg TO,0mt ss ql OF,0DOES mt CONTAIN AS ss ql",
  "0mt ss ql OF OR cj TO,0DOES mt CONTAIN AS ss ql OR cj,0an ps,0MIDLINE as ps,0UP ai dl ps",
  "0dg ai dl ps,0oy OF ab fk as at,3an ge AT yh OF as at,0ad oy OF ab an ge AT yh OF as at",
  "0oy OF ab cz aj,3lr,0ad oy OF ab lr,0oy OF ab gc,3co as STROKES,0pn ab fk as at",
  "2an ge AT yh OF as at,0ad pn ab an ge AT yh OF as at,0pn ab lr,0ad pn ab lr",
  "0Z qd BAG MEMBERSHIP,0DIAMETER ak,0ELECTRIC ae,0HOUSE,0UP bm,0dg bm,0PROJECTIVE,0PERSPECTIVE",
  "0WAVY gv,0av qv,0ai qv,0av yi,0ai yi,0gz ai CROP,1av CROP,0sb ai CROP,1av CROP,0bq mt ak",
  "0bn lq,0ARC,0SEGMENT,0SECTOR,0ju RECORDER,0POSITION nj,0VIEWDATA bn,0PLACE OF INTEREST ak",
  "0ci mt ak,0WATCH,0HOURGLASS,0sb av ha,1ai ha,0gz av ha,1ai ha,0sb dh hr,0gz dh hr,0FROWN",
  "0SMILE,0UP bm jn co as BARS,0OPTION KEY,0ERASE TO tr ai,0X IN A pi BOX,0yt,0eb fr bd",
  "0da fr bd,0ERASE TO tr av,0BENZENE ei,0CYLINDRICITY,0ALL AROUND-PROFILE,0SYMMETRY",
  "0TOTAL RUNOUT,0DIMENSION ORIGIN,0CONICAL TAPER,0SLOPE,0COUNTERBORE,0COUNTERSINK",
  "0APL FUNCTIONAL au I-BEAM,3SQUISH QUAD,3QUAD cj,4DIVIDE,4ej,4JOT,4bo,3bo STILE,4JOT,3qk ge",
  "3pg ge,3QUAD qk,4pg,4bu,4bh,3am VANE,3ah VANE,3QUAD am ae,4ah ae,3bo pg,3dg lf gc,3mk STILE",
  "3QUAD dg xw,4mk,3dg lf JOT,3bp VANE,3QUAD bp ae,3UP lf lr,3DEL STILE,3QUAD UP xw,4DEL",
  "3UP lf JOT,3ay VANE,3QUAD ay ae,3QUOTE gc,3mk gc,3ej gc,3JOT gc,3bo gc,3UP SHOE JOT",
  "3QUOTE QUAD,3bo hk,3QUAD iw,3UP lf bk,3DEL bk,3hk bk,3JOT bk,3bo bk,3dg SHOE STILE",
  "3av SHOE STILE,3cq bk,3bh bk,3et ge,3DEL cq,3ZILDE,3STILE cq,3jt gc,3QUAD mt cj,4fc,3dg xw cq",
  "3UP xw cq,3mg,3RHO,3hs,3ik gc,3gx gc,3mg gc,3hs gc,3ik,0mt tz bj,0ai fr ab ay xp ae",
  "0SHOULDERED fg BOX,0BELL au,0an gv ab bb cz,0INSERTION au,0CONTINUOUS UNDERLINE au",
  "0DISCONTINUOUS UNDERLINE au,0EMPHASIS au,0COMPOSITION au,0bc bn ab dz an gv,0ENTER au",
  "0ALTERNATIVE KEY au,0HELM au,0dk as ge ab NOTCH,1bg dg,0BROKEN bo ab NORTHWEST ae,0UNDO au",
  "0MONOSTABLE au,0HYSTERESIS au,0OPEN-CIRCUIT-OUTPUT H-TYPE au,1L-TYPE au",
  "0PASSIVE-PULL-DOWN-OUTPUT au,0PASSIVE-PULL-UP-OUTPUT au,0DIRECT CURRENT au af co",
  "0SOFTWARE-FUNCTION au,0APL FUNCTIONAL au QUAD,0DECIMAL fh KEY au,0PREVIOUS PAGE,0NEXT PAGE",
  "0PRINT SCREEN au,0CLEAR SCREEN au,0av cd dr bw,2ni,2cu bw,0ai cd dr bw,2ni,2cu bw",
  "0av bn bd dr ha,3ni,3cu ha,0ai bn bd dr ha,3ni,3cu ha,0av kc bd dr bw,3bb PIECE,3cu bw",
  "0kc bd ni,0ai kc bd dr bw,3bb PIECE,3cu bw,0hr ni,0as gv ni,0dr av OR cu ai kc bd hi",
  "1ai OR cu av kc bd hi,0SUMMATION sb,1gz,0sb bn bd,0gz bn bd,3dy sb bn bd,0RADICAL au gz",
  "0av an BOX gv,0ai an BOX gv,0as SCAN LINE-1,2LINE-3,2LINE-7,2LINE-9",
  "0DENTISTRY au cl an bi sb ai,5gz ai,4ab bo,3dg bi as ab bo,3UP bi as ab bo,3an ab bg",
  "3dg bi as ab bg,3UP bi as ab bg,3an bi rn,3dg bi as ab rn,3UP bi as ab rn,3dg bi as,3UP bi as",
  "3an bi sb av,5gz av,0bn FOOT,0RETURN au,0EJECT au,0an gv ni,0METRICAL ff,1fk dy fu,1fu dy fk",
  "1fk dy co SHORTS,1co SHORTS dy fk,3JOINED,1TRISEME,1TETRASEME,1PENTASEME,0rq GROUND,0FUSE",
  "0sb cd,0gz cd,0sb kc bd,0gz kc bd,0sb ib ky bd,0gz ib ky bd,0bc TRAPEZIUM,0BENZENE ei ab bo",
  "0STRAIGHTNESS,0FLATNESS,0AC CURRENT,0ELECTRICAL fd,0DECIMAL EXPONENT au,0ax da al bg",
  "1eb al bg,1hd al bg,1gu al bg,1da al bg ab an ge,1eb al bg ab an ge,1da bg ab al an ge",
  "0ALARM CLOCK,0STOPWATCH,0TIMER CLOCK,0HOURGLASS ab FLOWING SAND,0ax ce eb bg,2da bg,2hd bg",
  "2gu bg,0al an ge,0ax bn to gd,1bo to RECORD,0POWER au,1ON-OFF au,1ON au,1SLEEP au",
  "0OBSERVER EYE au,0au to NULL,2START OF HEADING,4TEXT,2yh OF TEXT,4TRANSMISSION,2ENQUIRY",
  "2ACKNOWLEDGE,2BELL,2BACKSPACE,2as TABULATION,2gv FEED,2an TABULATION,2af FEED",
  "2CARRIAGE RETURN,2SHIFT OUT,3IN,2DATA LINK ESCAPE,2DEVICE CONTROL cs,4co,4aw,4bt",
  "2jf ACKNOWLEDGE,2SYNCHRONOUS IDLE,2yh OF TRANSMISSION ey,2CANCEL,2yh OF ce,2SUBSTITUTE",
  "2ESCAPE,2FILE fh,2GROUP fh,2RECORD fh,2UNIT fh,2ll,2DELETE,0BLANK au,0fg BOX,0au to NEWLINE",
  "2DELETE af co,2SUBSTITUTE af co,2440=0OCR bw,1CHAIR,1FORK,1ca FORK,1BELT BUCKLE,1BOW TIE",
  "1BRANCH BANK IDENTIFICATION,1AMOUNT OF tz,1jw,1CUSTOMER ACCOUNT dq,1al pg,2460=0dk cr cs,2co",
  "2aw,2bt,2by,2fx,2bv,2br,2dm,1dq jx,2pr,2np,2qo,2pv,2nv,2pd,2nl,2ob,2qc,2fl,0rl cr cs,2co,2aw",
  "2bt,2by,2fx,2bv,2br,2dm,1dq jx,2pr,2np,2qo,2pv,2nv,2pd,2nl,2ob,2qc,2fl,0cr cs if gd,1co if gd",
  "1aw if gd,1bt if gd,1by if gd,1fx if gd,1bv if gd,1br if gd,1dm if gd,0dq jx if gd,1pr if gd",
  "1np if gd,1qo if gd,1pv if gd,1nv if gd,1pd if gd,1nl if gd,1ob if gd,1qc if gd,1fl if gd",
  "0rl ft ad aa A,4B,4C,4D,4E,4F,4G,4H,4I,4J,4K,4L,4M,4N,4O,4P,4Q,4R,4S,4T,4U,4V,4W,4X,4Y,4Z",
  "0dk ft ac aa A,4B,4C,4D,4E,4F,4G,4H,4I,4J,4K,4L,4M,4N,4O,4P,4Q,4R,4S,4T,4U,4V,4W,4X,4Y,4Z",
  "2ad aa A,4B,4C,4D,4E,4F,4G,4H,4I,4J,4K,4L,4M,4N,4O,4P,4Q,4R,4S,4T,4U,4V,4W,4X,4Y,4Z,1cr ex",
  "0jf dk dq pr,3np,3qo,3pv,3nv,3pd,3nl,3ob,3qc,3fl,0al dk cr cs,3co,3aw,3bt,3by,3fx,3bv,3br,3dm",
  "2dq jx,0jf dk cr ex,0BOX DRAWINGS cl as,2bl as,2cl an,2bl an,2cl es jw as,2bl es jw as",
  "2cl es jw an,2bl es jw an,2cl kj jw as,2bl kj jw as,2cl kj jw an,2bl kj jw an,2cl dg bi ai",
  "2dg cl bi ai bl,3bl bi ai cl,2bl dg bi ai,2cl dg bi av,2dg cl bi av bl,3bl bi av cl",
  "2bl dg bi av,2cl UP bi ai,2UP cl bi ai bl,3bl bi ai cl,2bl UP bi ai,2cl UP bi av",
  "2UP cl bi av bl,3bl bi av cl,2bl UP bi av,2cl an bi ai,2an cl bi ai bl,2UP bl bi ai dg cl",
  "2dg bl bi ai UP cl,2an bl bi ai cl,2dg cl bi ai UP bl,2UP cl bi ai dg bl,2bl an bi ai",
  "2cl an bi av,2an cl bi av bl,2UP bl bi av dg cl,2dg bl bi av UP cl,2an bl bi av cl",
  "2dg cl bi av UP bl,2UP cl bi av dg bl,2bl an bi av,2cl dg bi as,2av bl bi ai dg cl",
  "2ai bl bi av dg cl,2dg cl bi as bl,3bl bi as cl,2ai cl bi av dg bl,2av cl bi ai dg bl",
  "2bl dg bi as,2cl UP bi as,2av bl bi ai UP cl,2ai bl bi av UP cl,2UP cl bi as bl,3bl bi as cl",
  "2ai cl bi av UP bl,2av cl bi ai UP bl,2bl UP bi as,2cl an bi as,2av bl bi ai an cl",
  "2ai bl bi av an cl,2an cl bi as bl,2UP bl bi dg as cl,2dg bl bi UP as cl,2an bl bi as cl",
  "2av UP bl bi ai dg cl,2ai UP bl bi av dg cl,2av dg bl bi ai UP cl,2ai dg bl bi av UP cl",
  "2dg cl bi UP as bl,2UP cl bi dg as bl,2ai cl bi av an bl,2av cl bi ai an bl,2bl an bi as",
  "2cl al jw as,2bl al jw as,2cl al jw an,2bl al jw an,2al as,3an,2dg de bi ai al,3al bi ai de",
  "2al dg bi ai,2dg de bi av al,3al bi av de,2al dg bi av,2UP de bi ai al,3al bi ai de",
  "2al UP bi ai,2UP de bi av al,3al bi av de,2al UP bi av,2an de bi ai al,3al bi ai de",
  "2al an bi ai,2an de bi av al,3al bi av de,2al an bi av,2dg de bi as al,3al bi as de",
  "2al dg bi as,2UP de bi as al,3al bi as de,2al UP bi as,2an de bi as al,3al bi as de",
  "2al an bi as,2cl ARC dg bi ai,6av,4UP bi av,6ai,3dl dr ai TO cu av,5av TO cu ai,4gr,3av,3UP",
  "3ai,3dg,2bl av,3UP,3ai,3dg,2cl av bi bl ai,3UP bi bl dg,2bl av bi cl ai,3UP bi cl dg",
  "0dr dh ey,0cu cs hy ey,2fj ey,1aw km ey,1dh ey,1by km ey,1aw ji ey,1bv km ey,0if ey",
  "0av bv km ey,1aw ji ey,1by km ey,1dh ey,1aw km ey,1cs fj ey,2hy ey,0ai dh ey,0cl rd,0ce rd",
  "0DARK rd,0dr cs hy ey,0ai cs hy ey,0jh cu av,2ai,1dr av,3bi cu av bi cu ai,5ai",
  "4dr ai bi cu av,8ai,2ai,3bi cu av,6bi cu ai,0ax bn,0bc bn,2ab pc ya,2nf ax ad bn",
  "0bn ab as FILL,2an FILL,2ORTHOGONAL CROSSHATCH FILL,2dr av TO cu ai FILL,3ai TO cu av FILL",
  "2dl CROSSHATCH FILL,0ax ad bn,0bc ad bn,0ax pi,0bc pi,0ax an pi,0bc an pi,0ax PARALLELOGRAM",
  "0bc PARALLELOGRAM,0ax hd bg,0bc hd bg,0ax hd ad bg,0bc hd ad bg,0ax da bg,0bc da bg",
  "0ax da ad bg,0bc da ad bg,0ax da POINTER,0bc da POINTER,0ax gu bg,0bc gu bg,0ax gu ad bg",
  "0bc gu ad bg,0ax eb bg,0bc eb bg,0ax eb ad bg,0bc eb ad bg,0ax eb POINTER,0bc eb POINTER",
  "0ax ej,0bc ej,2nf ax ad ej,0FISHEYE,0lq,0bc bo,0fy bo,0bo ab an FILL,0BULLSEYE,0ax bo",
  "0bo ab av dh ax,2ai dh ax,2cu dh ax,2dr dh ax,3ai jh ax,2ALL BUT dr av jh ax,0av dh ax bo",
  "0ai dh ax bo,0oz ne,1bc bo,0dr dh oz bc bo,0cu dh oz bc bo,0dr av jh xx ARC,1ai jh xx ARC",
  "0cu ai jh xx ARC,1av jh xx ARC,0dr dh bo,0cu dh bo,0ax cu ai bg,2av bg,1dr av bg,2ai bg",
  "0bc ne,0bn ab av dh ax,2ai dh ax,2dr av dl dh ax,2cu ai dl dh ax,0bc bn ab an BISECTING gv",
  "1hd bg ab cz,0hd bg ab av dh ax,3ai dh ax,0ee bo,0bc bn ab dr av jh,3cu av jh,4ai jh",
  "3dr ai jh,1bo ab dr av jh,3cu av jh,4ai jh,3dr ai jh,0dr av bg,1ai bg,0cu av bg,0bc ce bn",
  "0ax ce bn,0bc ce ad bn,0ax ce ad bn,0cu ai bg,0ax SUN ab RAYS,0CLOUD,0zt,0SNOWMAN,0COMET",
  "0ax hk,0bc hk,0LIGHTNING,0THUNDERSTORM,0SUN,0ASCENDING NODE,0DESCENDING NODE,0CONJUNCTION",
  "0OPPOSITION,0ax ju,0bc ju,0BALLOT BOX,2ab tz,3X,0ny,0zt ab RAIN DROPS,0HOT BEVERAGE",
  "0bc SHOGI PIECE,0ax SHOGI PIECE,0SHAMROCK,0bq cp FLORAL jm ne,0ax av cb ck,1ai cb ck",
  "0bc av cb ck,1UP cb ck,1ai cb ck,1dg cb ck,0SKULL bi CROSSBONES,0CAUTION ak,0RADIOACTIVE ak",
  "0BIOHAZARD ak,0CADUCEUS,0ANKH,0ORTHODOX gr,0CHI RHO,0gr OF LORRAINE,2JERUSALEM,0hk bi ua",
  "0FARSI au,0ADI SHAKTI,0HAMMER bi SICKLE,0PEACE au,0YIN YANG,0TRIGRAM to HEAVEN,2LAKE,2FIRE",
  "2THUNDER,2WIND,2tm,2qa,2rq,0WHEEL OF DHARMA,0bc FROWNING ds,1jq ds,0ax jq ds,0bc SUN ab RAYS",
  "0FIRST fj oo,0LAST fj oo,0MERCURY,0FEMALE ak,0rq,0MALE ak,0JUPITER,0SATURN,0URANUS,0NEPTUNE",
  "0PLUTO,0ARIES,0TAURUS,0GEMINI,0CANCER,0LEO,0VIRGO,0LIBRA,0SCORPIUS,0SAGITTARIUS,0CAPRICORN",
  "0AQUARIUS,0PISCES,0bc ip un,2qi,2ROOK,2pl,2ht,2PAWN,0ax ip un,2qi,2ROOK,2pl,2ht,2PAWN",
  "1SPADE SUIT,0bc jm SUIT,1ej SUIT,0ax CLUB SUIT,0bc SPADE SUIT,0ax jm SUIT,1ej SUIT",
  "0bc CLUB SUIT,0HOT SPRINGS,0fj st,0hy st,0BEAMED hy NOTES,1rz NOTES,0MUSIC FLAT ak",
  "1NATURAL ak,1SHARP ak,0ic SYRIAC gr,0hc SYRIAC gr,0UNIVERSAL RECYCLING au",
  "0RECYCLING au to TYPE-1 ry,3TYPE-2 ry,3TYPE-3 ry,3TYPE-4 ry,3TYPE-5 ry,3TYPE-6 ry,3TYPE-7 ry",
  "3GENERIC MATERIALS,0ax UNIVERSAL RECYCLING au,0RECYCLED PAPER au,0PARTIALLY-RECYCLED PAPER au",
  "0PERMANENT PAPER ak,0WHEELCHAIR au,0DIE FACE-1,1FACE-2,1FACE-3,1FACE-4,1FACE-5,1FACE-6",
  "0bc bo ab cz ai,3co du,0ax bo ab bc cz ai,3co bc du,0ur to YANG,2YIN,0DIGRAM to GREATER YANG",
  "2LESSER YIN,3YANG,2GREATER YIN,0bc FLAG,0ax FLAG,0HAMMER bi PICK,0ANCHOR,0ln SWORDS",
  "0STAFF OF AESCULAPIUS,0SCALES,0ALEMBIC,0FLOWER,0GEAR,0STAFF OF HERMES,0ATOM au,0FLEUR-DE-LIS",
  "0rx bc hk,0aw LINES CONVERGING ai,3av,0WARNING ak,0fz VOLTAGE ak,0DOUBLED FEMALE ak,1MALE ak",
  "0INTERLOCKED FEMALE bi MALE ak,0MALE bi FEMALE ak,1ab at ak,3bi MALE bi FEMALE ak",
  "0an MALE ab at ak,0as MALE ab at ak,0ce bc bo,1ax bo,1ad bc bo,0MARRIAGE au,0DIVORCE au",
  "0UNMARRIED PARTNERSHIP au,0COFFIN,0FUNERAL URN,0NEUTER,0CERES,0PALLAS,0JUNO,0VESTA,0CHIRON",
  "0ax oo LILITH,0SEXTILE,0SEMISEXTILE,0QUINCUNX,0SESQUIQUADRATE,0SOCCER BALL,0BASEBALL,0fb KEY",
  "0bc DRAUGHTS MAN,2un,0ax DRAUGHTS MAN,2un,0SNOWMAN WITHOUT SNOW,0SUN BEHIND CLOUD,0RAIN",
  "0ax SNOWMAN,0THUNDER CLOUD bi RAIN,0ci bc SHOGI PIECE,1ax SHOGI PIECE,0bc ej IN bn,0ep LANES",
  "0DISABLED CAR,0OPHIUCHUS,0PICK,0CAR SLIDING,0HELMET ab bc gr,0dk ep LANES,0CHAINS,0NO ENTRY",
  "0fp ONE-WAY av WAY TRAFFIC,0ax TWO-WAY av WAY TRAFFIC,0bc TWO-WAY av WAY TRAFFIC",
  "0ax av LANE MERGE,0bc av LANE MERGE,0DRIVE SLOW ak,0bl bc gu bg,0av gl ENTRY,0fb ny",
  "0vn dl IN bc bo IN ax bn,0ax TRUCK,0RESTRICTED av ENTRY-1,2ENTRY-2,0ASTRONOMICAL au to URANUS",
  "0bl bo ab at bi co du aj,0PENTAGRAM,0RIGHT-HANDED INTERLACED PENTAGRAM",
  "0LEFT-HANDED INTERLACED PENTAGRAM,0ca PENTAGRAM,0ax gr ON SHIELD,0SHINTO SHRINE,0CHURCH",
  "0CASTLE,0HISTORIC SITE,0GEAR WITHOUT HUB,1ab HANDLES,0MAP au to LIGHTHOUSE,0qa,0zt ON GROUND",
  "0FOUNTAIN,0FLAG IN HOLE,0FERRY,0SAILBOAT,0bn bt ya,0SKIER,0ICE SKATE,0ly ab BALL,0TENT",
  "0ru BANK au,0HEADSTONE GRAVEYARD au,0FUEL PUMP,0CUP ON ax bn,0bc FLAG ab as bb ax STRIPE",
  "0ax SAFETY vd,0dr BLADE vd,0ax vd,0cu BLADE vd,0bc vd,1bl tz bj,0ju LOCATION ak,0TAPE DRIVE",
  "0ro,0oc,0ig FIST,1mf,0VICTORY mf,0WRITING mf,0cu ai PENCIL,0PENCIL,0dr ai PENCIL,0bc NIB",
  "0ax NIB,0tz bj,0bl tz bj,0gw X,0bl gw X,0BALLOT X,0bl BALLOT X,0rx kn gr,0bl kn gr,0fg dz gr",
  "0bl fg dz gr,0ft gr,0kg bc ft gr,0rx ft gr,0MALTESE gr,0hk OF DAVID,0bt ja di,1tx di",
  "0bl bt tx di,0bt CLUB-SPOKED di,0ax bt fa hk,0bc bt fa hk,0SPARKLES,0STRESS rx bc hk",
  "0dk bc hk,0fg dz ax hk,0ax dz bc hk,0rx ax hk,0bl rx ax hk,0oi hk,0kg bc hk,0bl di,0fg dz di",
  "0br kz di,1fa ax hk,2oi hk,0fx fa ax hk,0br fa RECTILINEAR ax hk,0bl br fa RECTILINEAR ax hk",
  "0np fa ax hk,0pd fa di,0ja di,0fg dz ja di,0bl ja di,0fx PETALLED ax bi bc FLORETTE",
  "0ax FLORETTE,0bc FLORETTE,0br PETALLED rx ax FLORETTE,0dk fg dz br fa hk,0bl ja oi di",
  "0SNOWFLAKE,0TIGHT TRIFOLIATE SNOWFLAKE,0bl CHEVRON SNOWFLAKE,0SPARKLE,0bl SPARKLE,0tx di",
  "0br ja PROPELLER di,0bl br ja PROPELLER di,0gr bj,0kg bc bo,0jf fb gr bj",
  "0cu ai DROP-SHADOWED bc bn,0dr ai DROP-SHADOWED bc bn,0cu ai kg bc bn,0dr ai kg bc bn",
  "0ax fc bj cn,0bc fc bj cn,1dw bj cn,0ax ej og bc X,0bl dw bj au,0cl an ge,0ce an ge,0bl an ge",
  "1de ci et eg bj cn,2et eg bj cn,1al ci et eg bj cn,2et eg bj cn,1is de et eg bj cn",
  "2al et eg bj cn,0rg STEM vr ak cn,0bl dw bj cn,1jm dw bj cn,1ax jm,0cp bl ax jm ne,0FLORAL jm",
  "0cp FLORAL jm ne,0ce av cd cn,1ai cd cn,1FLATTENED av cd cn,2ai cd cn,1eb fr bd cn",
  "1da fr bd cn,0bl eb fr eg bj cn,1da fr eg bj cn,1eb fr bd cn,1da fr bd cn,0cl av ib ky bd cn",
  "1ai ib ky bd cn,0ce av kc bd cn,1ai kc bd cn,0DINGBAT jf dk cr cs,4co,4aw,4bt,4by,4fx,4bv,4br",
  "4dm,3dq jx,1dk er cr cs,4co,4aw,4bt,4by,4fx,4bv,4br,4dm,3dq jx,1jf dk er cr cs,5co,5aw,5bt",
  "5by,5fx,5bv,5br,5dm,4dq jx,0bl WIDE-HEADED ah ae,1cy ak,1og ak,1pp ak,1gy hc ae,1ah ae",
  "1gi hc ae,0DRAFTING tk ah ae,0bl ROUND-TIPPED ah ae,0ao ah ae,0bl ao ah ae,0on ao ah ae",
  "0bl on ao ah ae,0ax ah ae,0THREE-D TOP-LIGHTED ah bm,1BOTTOM-LIGHTED ah bm,0ax ah bm",
  "0bl ax rg ay bi ah ae,3bp bi ah ae,0SQUAT ax ah ae,0bl CONCAVE-POINTED ax ah ae,0zl bc ah ae",
  "0LEFT-SHADED bc ah ae,0BACK-TILTED kg bc ah ae,0yk kg bc ah ae,0bl cu qj bc ah ae",
  "1dr qj bc ah ae,0ra cu qj bc ah ae,0kc uq,0ra dr qj bc ah ae,0dk bl bc ah ae",
  "0WHITE-FEATHERED ah ae,0BLACK-FEATHERED gy hc ae,1ah ae,1gi hc ae",
  "0bl BLACK-FEATHERED gy hc ae,2ah ae,2gi hc ae,0TEARDROP-BARBED ah ae",
  "0bl TEARDROP-SHANKED ah ae,0WEDGE-TAILED ah ae,0bl WEDGE-TAILED ah ae,0OPEN-OUTLINED ah ae",
  "0al kc uq,0aw DIMENSIONAL fr,0bc bg nf ad bc bg,0wg,0fg ih,1gk,0av S-SHAPED BAG DELIMITER",
  "0ai S-SHAPED BAG DELIMITER,0OR ab cz kl,0ie hj PRECEDING ih,0gk PRECEDING hj,0an ge ab as at",
  "0mq op dl,0fk pp,0mq vn dl,0fb lp bi,2OR,0bc ej ab si cz,0bi ab cz,0oy OF OPENING bp",
  "0cu ai ha ab cz,0dr av ha ab cz,0av OUTER JOIN,0ai OUTER JOIN,0if OUTER JOIN,0ee UP lf,1dg lf",
  "0av bi ai al no,3lf,1MULTIMAP,0fk ai lf,1av lf,0UP lf ab bo aj,0lq DIVIDED BY as RULE",
  "0bc CONCAVE-SIDED ej,3ab am TICK,4ah TICK,1bn ab am TICK,3ah TICK,0mq av bc bn bd",
  "1ai bc bn bd,1av fr bd,1ai fr bd,1av al fr bd,1ai al fr bd,1av bc ib ky bd,1ai bc ib ky bd",
  "1av FLATTENED cd,1ai FLATTENED cd,0bp kj ae,0ay kj ae,0ek GAPPED bo ae,0iy GAPPED bo ae",
  "0ai ae ab dk cy,0fk am ae,1ah ae,1av ai ae,1am al ae,1ah al ae,1av ai al ae,1am ae me ge",
  "1ah ae me ge,1am al ae me ge,1ah al ae me ge,2SQUIGGLE ae,0BRAILLE PATTERN BLANK,2DOTS-1",
  "2DOTS-2,2DOTS-12,2DOTS-3,2DOTS-13,2DOTS-23,2DOTS-123,2DOTS-4,2DOTS-14,2DOTS-24,2DOTS-124",
  "2DOTS-34,2DOTS-134,2DOTS-234,2DOTS-1234,2DOTS-5,2DOTS-15,2DOTS-25,2DOTS-125,2DOTS-35",
  "2DOTS-135,2DOTS-235,2DOTS-1235,2DOTS-45,2DOTS-145,2DOTS-245,2DOTS-1245,2DOTS-345,2DOTS-1345",
  "2DOTS-2345,2DOTS-12345,2DOTS-6,2DOTS-16,2DOTS-26,2DOTS-126,2DOTS-36,2DOTS-136,2DOTS-236",
  "2DOTS-1236,2DOTS-46,2DOTS-146,2DOTS-246,2DOTS-1246,2DOTS-346,2DOTS-1346,2DOTS-2346",
  "2DOTS-12346,2DOTS-56,2DOTS-156,2DOTS-256,2DOTS-1256,2DOTS-356,2DOTS-1356,2DOTS-2356",
  "2DOTS-12356,2DOTS-456,2DOTS-1456,2DOTS-2456,2DOTS-12456,2DOTS-3456,2DOTS-13456,2DOTS-23456",
  "2DOTS-123456,2DOTS-7,2DOTS-17,2DOTS-27,2DOTS-127,2DOTS-37,2DOTS-137,2DOTS-237,2DOTS-1237",
  "2DOTS-47,2DOTS-147,2DOTS-247,2DOTS-1247,2DOTS-347,2DOTS-1347,2DOTS-2347,2DOTS-12347,2DOTS-57",
  "2DOTS-157,2DOTS-257,2DOTS-1257,2DOTS-357,2DOTS-1357,2DOTS-2357,2DOTS-12357,2DOTS-457",
  "2DOTS-1457,2DOTS-2457,2DOTS-12457,2DOTS-3457,2DOTS-13457,2DOTS-23457,2DOTS-123457,2DOTS-67",
  "2DOTS-167,2DOTS-267,2DOTS-1267,2DOTS-367,2DOTS-1367,2DOTS-2367,2DOTS-12367,2DOTS-467",
  "2DOTS-1467,2DOTS-2467,2DOTS-12467,2DOTS-3467,2DOTS-13467,2DOTS-23467,2DOTS-123467,2DOTS-567",
  "2DOTS-1567,2DOTS-2567,2DOTS-12567,2DOTS-3567,2DOTS-13567,2DOTS-23567,2DOTS-123567,2DOTS-4567",
  "2DOTS-14567,2DOTS-24567,2DOTS-124567,2DOTS-34567,2DOTS-134567,2DOTS-234567,2DOTS-1234567",
  "2DOTS-8,2DOTS-18,2DOTS-28,2DOTS-128,2DOTS-38,2DOTS-138,2DOTS-238,2DOTS-1238,2DOTS-48",
  "2DOTS-148,2DOTS-248,2DOTS-1248,2DOTS-348,2DOTS-1348,2DOTS-2348,2DOTS-12348,2DOTS-58,2DOTS-158",
  "2DOTS-258,2DOTS-1258,2DOTS-358,2DOTS-1358,2DOTS-2358,2DOTS-12358,2DOTS-458,2DOTS-1458",
  "2DOTS-2458,2DOTS-12458,2DOTS-3458,2DOTS-13458,2DOTS-23458,2DOTS-123458,2DOTS-68,2DOTS-168",
  "2DOTS-268,2DOTS-1268,2DOTS-368,2DOTS-1368,2DOTS-2368,2DOTS-12368,2DOTS-468,2DOTS-1468",
  "2DOTS-2468,2DOTS-12468,2DOTS-3468,2DOTS-13468,2DOTS-23468,2DOTS-123468,2DOTS-568,2DOTS-1568",
  "2DOTS-2568,2DOTS-12568,2DOTS-3568,2DOTS-13568,2DOTS-23568,2DOTS-123568,2DOTS-4568,2DOTS-14568",
  "2DOTS-24568,2DOTS-124568,2DOTS-34568,2DOTS-134568,2DOTS-234568,2DOTS-1234568,2DOTS-78",
  "2DOTS-178,2DOTS-278,2DOTS-1278,2DOTS-378,2DOTS-1378,2DOTS-2378,2DOTS-12378,2DOTS-478",
  "2DOTS-1478,2DOTS-2478,2DOTS-12478,2DOTS-3478,2DOTS-13478,2DOTS-23478,2DOTS-123478,2DOTS-578",
  "2DOTS-1578,2DOTS-2578,2DOTS-12578,2DOTS-3578,2DOTS-13578,2DOTS-23578,2DOTS-123578,2DOTS-4578",
  "2DOTS-14578,2DOTS-24578,2DOTS-124578,2DOTS-34578,2DOTS-134578,2DOTS-234578,2DOTS-1234578",
  "2DOTS-678,2DOTS-1678,2DOTS-2678,2DOTS-12678,2DOTS-3678,2DOTS-13678,2DOTS-23678,2DOTS-123678",
  "2DOTS-4678,2DOTS-14678,2DOTS-24678,2DOTS-124678,2DOTS-34678,2DOTS-134678,2DOTS-234678",
  "2DOTS-1234678,2DOTS-5678,2DOTS-15678,2DOTS-25678,2DOTS-125678,2DOTS-35678,2DOTS-135678",
  "2DOTS-235678,2DOTS-1235678,2DOTS-45678,2DOTS-145678,2DOTS-245678,2DOTS-1245678,2DOTS-345678",
  "2DOTS-1345678,2DOTS-2345678,2DOTS-12345678,0ah jl ae ab an at,4al an at,0am al ae ab an at",
  "0ah al ae ab an at,0av ai al ae ab an at,0ah jl ae me ge,0am al ae me ge,0ah al ae me ge",
  "0ay ae ab as at,0bp ae ab as at,1es ae,0ay es ae,0am al jw ae,0ah al jw ae,0am es jw ae",
  "0ah es jw ae,1jl es jw ae,1ae ab fy STEM,0bp ae TO ge,0ay ae TO ge,0ah ae ab hw ab an at",
  "5al an at,1jl ae ab hw,5ab an at,6al an at,0am wn,0ah wn,0am al wn,0ah al wn,0am ae TO ax ej",
  "0ah ae TO ax ej,0am ae me ge TO ax ej,0ah ae me ge TO ax ej,0gi ic bi gy hc ae",
  "1hc bi gy ic ae,1ic ae ab bw,1hc ae ab bw,0gy hc ae ab bw,1ic ae ab bw,0gi ic ae bi gi hc ae",
  "1hc ae bi gy hc ae,0gy hc ae bi gy ic ae,1ic ae bi gi ic ae,0op dl ep vn dl,0vn dl ep op dl",
  "0gy hc ae ep gi hc ae,0gi hc ae ep gy hc ae,0vn dl ep gi hc ae,0op dl ep gy hc ae",
  "0gi hc ae ep gi ic ae,1ic ae ep gi hc ae,0rn ae cb DIRECTLY ai,0ae cb ah THEN CURVING bp,5ay",
  "2ay THEN CURVING am,5ah,0RIGHT-SIDE ARC iy ae,0LEFT-SIDE ARC ek ae,0sb ARC ek ae",
  "0gz ARC ek ae,0sb ARC iy ae ab og,2ek ae ab cy,0cu ai zn iy ae,1av zn ek ae,0ek gl bo ae",
  "0iy gl bo ae,0ah ae aj fu am ae,0am ae aj fu ah ae,0fu ah ae aj am ae,0ah ae ab cy aq",
  "0am ae ab cy aq,0ah ae lc X,0av ai ae lc ad bo,0bp jl ae me ad bo,0av en UP ai en dg dd",
  "2dg ai en UP dd,0UP en ai dg en av dd,2av dg en ai dd,0av en UP ai en UP dd",
  "0UP en ai dg en ai dd,0av en dg ai en dg dd,0UP en av dg en av dd,0am dd ab en UP TO ge",
  "0ah dd ab en UP TO ge,0bp dd ab en ai TO ge,0ay dd ab en ai TO ge,0am dd ab en dg TO ge",
  "0ah dd ab en dg TO ge,0bp dd ab en av TO ge,0ay dd ab en av TO ge,0am dd ab en UP me ge",
  "0ah dd ab en UP me ge,0bp dd ab en ai me ge,0ay dd ab en ai me ge,0am dd ab en dg me ge",
  "0ah dd ab en dg me ge,0bp dd ab en av me ge,0ay dd ab en av me ge",
  "0am dd ab en UP aj am dd ab en dg,0bp dd ab en av sf bp dd ab en ai",
  "0ah dd ab en UP aj ah dd ab en dg,0ay dd ab en av sf ay dd ab en ai",
  "0am dd ab en UP aj ah dd ab en UP,4dg aj ah dd ab en dg,0ah dd ab en UP aj am dd ab en UP",
  "4dg aj am dd ab en dg,0am dd ab en UP aj fk jw,4dg aq fk jw,0ah dd ab en UP aj fk jw",
  "4dg aq fk jw,0bp dd ab en av sf ay dd ab en ai,0ay dd ab en av sf bp dd ab en ai",
  "0ai al ae ab pc tp,0gn ak aj ah ae,0cq do aj ah ae,0am ae aj cq do,0ah ae aj cq do,3lt cj TO",
  "0bu aj am ae,0am ae lc bu,0bh aj ah ae,0ih aj ah ae,0am ae lc ih,0gk aj am ae,0av FISH hw",
  "0ai FISH hw,0UP FISH hw,0dg FISH hw,0es an ge DELIMITER,0Z qd SPOT,2TYPE iw,0av bc kc bd",
  "0ai bc kc bd,0av bc cd,0ai bc cd,0Z qd av IMAGE bd,2ai IMAGE bd,2av BINDING bd,2ai BINDING bd",
  "0av bn bd ab gc,0ai bn bd ab gc,0av bn bd ab TICK IN sb ha,0ai bn bd ab TICK IN gz ha",
  "0av bn bd ab TICK IN gz ha,0ai bn bd ab TICK IN sb ha,0av fr bd ab cz,0ai fr bd ab cz",
  "0av ARC bu bd,0ai ARC bh bd,0al av ARC bh bd,1ai ARC bu bd,0av ax ib ky bd,0ai ax ib ky bd",
  "0fy FENCE,0an xp gv,0yx fr OPENING av,0ai fr hx ab bn,0yx ai fr ab cz,0fr ab S kl,0db fr",
  "0SPHERICAL fr OPENING av,3UP,0ci fr,0bq fr,0fr ab gc,0bq fr ab gc,0kr fr OPENING UP,3dg",
  "0yx fr ab fg ARM ENDING IN ae cb UP bi ai,9UP bi av,9dg bi ai,9dg bi av,9ai bi UP,9av bi UP",
  "9ai bi dg,9av bi dg,0bq EMPTY SET,0EMPTY SET ab lr,3ad bo aj,3ai ae aj,3av ae aj,0bo ab as ge",
  "0dk an ge,1qh,1ie hj,1wg,0bo DIVIDED BY as ge bi sb dh DIVIDED BY an ge,1ab SUPERIMPOSED X",
  "0dk ANTICLOCKWISE-ROTATED pp ak,0UP ae lc bo,0dk bc ne,1ne,1bu,1bh,0bo ab ad bo TO tr ai",
  "2co as STROKES TO tr ai,0fb op dl qk,1vn dl qk,1di,1ad bo,1bn,0co JOINED SQUARES,0bg ab cz aj",
  "2gc,0S IN bg,0bg ab SERIFS AT gz,0ai bg aj av bg,0av bg sf an ge,0an ge sf ai bg",
  "0BOWTIE ab av dh ax,2ai dh ax,0ax BOWTIE,0bs ab av dh ax,2ai dh ax,0bc HOURGLASS",
  "0ax HOURGLASS,0av WIGGLY FENCE,0ai WIGGLY FENCE,0av al WIGGLY FENCE,0ai al WIGGLY FENCE",
  "0INCOMPLETE uk,0TIE dy uk,0uk NEGATED ab an ge,0DOUBLE-ENDED MULTIMAP",
  "0bn ab CONTOURED OUTLINE,0INCREASES AS,0SHUFFLE ls,0gn ak bi hv qh,5ab cq aj",
  "0IDENTICAL TO bi hv qh,0GLEICH STARK,0THERMODYNAMIC,0gu bg ab av dh ax,3ai dh ax",
  "0ax ej ab dg ae,1lq,0bc bo ab dg ae,0ax bo ab dg ae,0ERROR-BARRED bc bn,1ax bn,1bc ej,1ax ej",
  "1bc bo,1ax bo,0RULE-DELAYED,0ie hj do,0hj ab lr,0ie hj ab as at,0BIG hj,1ie hj,0al cy,0es cy",
  "0eb rg fr bd,0da rg fr bd,0TINY,0MINY,0N-ARY dk cz do,2cy do,2bs do,1ow do ab cz,4cy",
  "1bn fd do,2ow do,0co lp bi do,2OR do,0N-ARY bs do,0MODULO co SUM,0SUMMATION ab hr,0kj hr do",
  "0FINITE PART hr,0hr ab al at,1AVERAGE ab qk,0CIRCULATION FUNCTION,0ek INTEGRATION",
  "0gv INTEGRATION ab RECTANGULAR PATH AROUND POLE,3zn PATH AROUND POLE,2mt INCLUDING tr POLE",
  "0hr AROUND A tk do,0QUATERNION hr do,0hr ab am ae ab bw,2bs ak,2fd,2ow,2lr,2gc,0JOIN",
  "0ee av bg do,0Z qd SCHEMA COMPOSITION,3PIPING,3PROJECTION,0cy ak ab ad bo aj,3be fs aj,3cq aj",
  "3cz aq,3cq aq,3pj co,3ax bg,0og ak ab et aj,3cz aq,3vn du,3op du,0cy ak IN av dh bo,3ai dh bo",
  "0VECTOR OR gr ls,0gw ak ab cz aj,3gc,0sy ls ab gz gl,0SMASH ls,0gw ak IN av dh bo,3ai dh bo",
  "0dk gw ak ab be fs,0gw ak IN al bo,0dk pp ak,0cy ak IN bg,0og ak IN bg,0gw ak IN bg",
  "0INTERIOR ls,0RIGHTHAND INTERIOR ls,0Z qd RELATIONAL COMPOSITION,0AMALGAMATION OR COPRODUCT",
  "0fd ab cz,0ow ab og ak,2lr,0fd ab lr,2lp bi,0ow ab lp OR,1aj fd,0fd aj ow,0ow aj ge aj fd",
  "0fd aj ge aj ow,0ow sf bi JOINED ab ow,0fd sf bi JOINED ab fd,0gl ow ab SERIFS,1fd ab SERIFS",
  "0al bn fd,2ow,0gl ow ab SERIFS bi SMASH ls,0lp bi ab cz aj,1OR ab cz aj,0al lp bi,2OR",
  "0co INTERSECTING lp bi,3OR,0SLOPING ee OR,2bi,0lp OR OVERLAPPING lp bi,1bi ab bb STEM",
  "1OR ab bb STEM,1bi ab as jw,1OR ab as jw,1bi ab al lr,3gc,3al gc,0ad VEE ab gc",
  "0lp OR ab al lr,4gc,0Z qd DOMAIN ANTIRESTRICTION,2RANGE ANTIRESTRICTION,0gn ak ab cz aq",
  "0IDENTICAL ab cz aj,0es as ge ab al an at,4es an at,0cq do ab cz aj,3op du,0vt og vt",
  "0CONGRUENT ab cz aj,0gn ab di,0lt cj TO ab be fs,0nt cj OR cj TO,0gn ak aj cy ak",
  "0cy ak aj gn ak,0gn ak aj cq do,0al iw cj,0co CONSECUTIVE gn SIGNS,0aw CONSECUTIVE gn SIGNS",
  "0gn ak ab co du aj bi co du aq,0hg ab bt du aj,0bu ab bo kl,0bh ab bo kl,0bu ab fc bj aj",
  "0bh ab fc bj aj,0bu OR hv cj TO,0bh OR hv cj TO,0bu OR hv cj TO ab cz kl",
  "0bh OR hv cj TO ab cz kl,0bu OR hv cj TO ab cz aj,0bh OR hv cj TO ab cz aj",
  "0bu OR hv cj TO ab cz aj ai,0bh OR hv cj TO ab cz aj av,0bu OR tv,0bh OR tv",
  "0bu bi ol mt cj TO,0bh bi ol mt cj TO,0bu bi mt tv,0bh bi mt tv,0bu aj oa cj aj bh",
  "0bh aj oa cj aj bu,0bu aj vt OR cj,0bh aj vt OR cj,0bu aj vt aj bh,0bh aj vt aj bu",
  "0bu aj bh aj oa cj,0bh aj bu aj oa cj,0bu aj hv cj aj bh aj hv cj,0bh aj hv cj aj bu aj hv cj",
  "0hv cj TO OR bu,4bh,4bu ab cz kl,4bh ab cz kl,0oa cj TO OR bu,4bh,1hv cj TO OR bu,5bh",
  "0vt OR bu,2bh,1aj bu aj gn ak,2bh aj gn ak,0al NESTED bu,2bh,2bu ab gc,0bh OVERLAPPING bu",
  "1sf bu,0bu gl BY nz,0bh gl BY nz,0bu gl BY nz aj hv cj,0bh gl BY nz aj hv cj,0SMALLER THAN",
  "0LARGER THAN,0SMALLER THAN OR cj TO,0LARGER THAN OR cj TO,0gn ak ab BUMPY aj,0kf aj ol gn ak",
  "0ki aj ol gn ak,0kf aj ol mt cj TO,0ki aj ol mt cj TO,0kf aj gn ak,0ki aj gn ak",
  "0kf aj mt cj TO,0ki aj mt cj TO,0kf aj lt cj TO,0ki aj lt cj TO,0kf aj mt lt cj TO",
  "0ki aj mt lt cj TO,0al kf,1ki,0ih ab cz,0gk ab cz,0ih ab cy ak aq,0gk ab cy ak aq",
  "0ih ab gw ak aq,0gk ab gw ak aq,0ih OF OR cj TO ab cz aj,0gk OF OR cj TO ab cz aj",
  "0ih OF aj gn ak,0gk OF aj gn ak,0ih OF aj cq do,0gk OF aj cq do,0ih OF aj lt cj TO",
  "0gk OF aj lt cj TO,0ih OF aj mt cj TO,0gk OF aj mt cj TO,0bn av fg BOX do,1ai fg BOX do",
  "0gl ih,1gk,1ih OR cj TO,1gk OR cj TO,0ih aj gk,0gk aj ih,0ih aj ih,0gk aj gk,1sf ih",
  "2bi JOINED BY jw ab ih,0oy OF OPENING ay,0PITCHFORK ab TEE sb,0TRANSVERSAL fd,0FORKING",
  "0NONFORKING,0fu av lf,1dg lf,1UP lf,0wg ab S,0an ge es ai no,0al an ge av no,0an ge al av no",
  "0al an ge al av no,0fk jw me av MEMBER OF al an,0fu dg lf ab lr,1UP lf ab gc,3aj fu dg lf",
  "0al dg lf,1UP lf,1at mt ak,0bq al at mt ak,0DOES mt DIVIDE ab bq NEGATION qk,0an gv ab bo aj",
  "4aq,0dg lf ab bo aq,0qh ab as at,2cq do,0es an ge BINARY RELATION,3ab as at,1iw do,1NESTED bu",
  "2bh,0oa hv bu OR cj TO,2bh OR cj TO,0es hj BINARY RELATION,0ee es an ge do,0al hj do",
  "0bc an ge,0N-ARY bc an ge,0gi hc bc ae,1ic bc ae,0gy hc bc ae,1ic bc ae,0av ai bc ae",
  "0am ax ae,0bp ax ae,0ay ax ae,0gi hc ax ae,1ic ax ae,0gy hc ax ae,1ic ax ae,0av ai ax ae",
  "0UP dg ax ae,0ah ae ab TIP ay,4bp,0am ae ab TIP ay,4bp,0bn ab sb dh ax,2gz dh ax",
  "2dr ai dl dh ax,2cu av dl dh ax,0ej ab av dh ax,2ai dh ax,2sb dh ax,2gz dh ax,0fy bn",
  "0ax ee bn,0bc ee bn,0ax nr ad bn,0bc nr ad bn,0ax zd,0bc zd,1HEXAGON,0ax HEXAGON",
  "0as ax HEXAGON,0ax ee bo,1ce ej,0bc ce ej,0ax ce lq,0bc ce lq,0ax ad ej,2lq,0bc ad lq",
  "0ax as ELLIPSE,0bc as ELLIPSE,0ax an ELLIPSE,0bc an ELLIPSE,0av ae ab ad bo,0aw am lu",
  "0av ae ab dk cy,0fk am SQUIGGLE ae,0am jl ae ab an at,4al an at,3me ge,2es jw ae",
  "1ae ab fy STEM,3hw ab an at,5al an at,1jl ae ab hw,5ab an at,6al an at,1ae lc X",
  "0rn ae cb DIRECTLY av,0gn ak aj am ae,0ie cq do aj am ae,0am ae aj ie lt cj TO,0ah ae lc bh",
  "3gk,0am kj ae,0ah kj ae,0ie cq do aj ah ae,0ah ae aj ie lt cj TO,0cq do aj am ae",
  "0am ae aj lt cj TO,3ie cq do,0ah ae aj ie cq do,0ay ao xp ae,0fu hv gi ae,1BACKSLANTED gy ae",
  "0bc ce hk,0ax ad hk,0bc ad hk,0ax da zd,0bc da zd,0bl ee bo,1OVAL ab OVAL kl,1bo ab bo kl,2",
  "1dk ny,0hv gi ae ab HOOKED tp,0BACKSLANTED gy ae ab HOOKED hw,0hv gi ae ab as hw",
  "0BACKSLANTED gy ae ab as hw,0mi ae cb ay THEN gi hc,0fu mi ae cb ay THEN gi hc,0am ao ae",
  "0bp ao ae,0ah ao ae,0ay ao ae,0av ai ao ae,0UP dg ao ae,0gi ic ao ae,1hc ao ae,0gy hc ao ae",
  "1ic ao ae,0am ao on ae,0bp ao on ae,0ah ao on ae,0ay ao on ae,0iy ao fg bo ae,0ek ao fg bo ae",
  "0am ao ae TO ge,0bp ao ae TO ge,0ah ao ae TO ge,0ay ao ae TO ge,2b76=0gi ic ao ae TO ge",
  "1hc ao ae TO ge,0gy hc ao ae TO ge,1ic ao ae TO ge,0am ao ae ab al as at",
  "0bp ao ae ab al as at,0ah ao ae ab al as at,0ay ao ae ab al as at,0as TAB KEY,0an TAB KEY",
  "0am ao ae dy ah ao ae,0bp ao ae am OF ay ao ae,0ah ao ae dy am ao ae,0ay ao ae am OF bp ao ae",
  "0am ao xc lu,0bp ao xc lu,0ah ao xc lu,0ay ao xc lu,0am ax dk bc ae,0bp ax dk bc ae",
  "0ah ax dk bc ae,0ay ax dk bc ae,0ek ao ai zs ae,2gz zs ae,2av zs ae,2sb zs ae,0RETURN av,1ai",
  "0NEWLINE av,1ai,0bt ha lu CIRCLING ek,0ah ax ae,2b97=0au to TYPE A ELECTRONICS",
  "0THREE-D TOP-LIGHTED am ed bm,1RIGHT-LIGHTED bp ed bm,1TOP-LIGHTED ah ed bm",
  "1LEFT-LIGHTED ay ed bm,0ax am ed bm,1bp ed bm,1ah ed bm,1ay ed bm,0ay ao ae ab fk TIP am,6ah",
  "0bp ao ae ab fk TIP am,6ah,0am ao ae ab fk TIP bp,0ah ao ae ab fk TIP bp",
  "0am ao ae ab fk TIP ay,0ah ao ae ab fk TIP ay,0ax rg ay bi am ae,4ah ae,2bp bi am ae,4ah ae",
  "2am bi bp ae,2ah bi bp ae,2am bi ay ae,2ah bi ay ae,0RIBBON ae dg av,3ai,2UP av,3ai,2av UP",
  "2ai UP,2av dg,2ai dg,0bp bc ae me ge ab as ge,0UP bm IN A pi BOX,0OVERLAPPING bc SQUARES",
  "2bi ax SQUARES,1ax SQUARES,0BALLOT BOX ab cl X,0dk X,1mz X,0ax bn si,1ej si,0ci ax zd",
  "0as ax OCTAGON,0ax OCTAGON,1ce hd bg si,2gu bg si,2eb bg si,2da bg si,0NEPTUNE af co",
  "0sb dh ax bo,0gz dh ax bo,0cl bt fa ax CUSP,0cp cl bt fa ax CUSP,0bc bt fa CUSP",
  "0cp bc bt fa CUSP,0bn POSITION nj,0UNCERTAINTY ak,0GROUP bj,0PLUTO af co,2aw,2bt,2by",
  "0TRANSPLUTO,0PROSERPINA,0ASTRAEA,0HYGIEA,0PHOLUS,0NESSUS,0bc oo SELENA,0ax ej ON gr",
  "0TRUE cl oo ARTA,0CUPIDO,0HADES,0ZEUS,0KRONOS,0APOLLON,0ADMETOS,0VULCANUS,0POSEIDON",
  "0av dh ax hk,0ai dh ax hk,0hk ab av dh ax,2ai dh ax,0am jl ae ab bg wo,0bp jl ae ab bg wo",
  "0ah jl ae ab bg wo,0ay jl ae ab bg wo,0ERIS af cs,2co,0SEDNA",
  "0RUSSIAN ASTROLOGICAL au VIGINTILE,3NOVILE,3QUINTILE,3BINOVILE,3SENTAGON,3TREDECILE",
  "0gn ak ab uk aq,0UNITED au,0SEPARATED au,0DOUBLED au,0PASSED au,0bq ai fr",
  "0HELLSCHREIBER PAUSE au,0GLAGOLITIC ac aa AZU,3BUKY,3VEDE,3GLAGOLI,3DOBRO,3YESTU,3ZHIVETE",
  "3DZELO,3ZEMLJA,3IZHE,3ap IZHE,3I,3DJERVI,3KAKO,3LJUDIJE,3MYSLITE,3NASHI,3ONU,3POKOJI,3RITSI",
  "3SLOVO,3TVRIDO,3UKU,3FRITU,3HERU,3OTU,3PE,3SHTA,3TSI,3CHRIVI,3kt,3YERU,3YERI,3YATI",
  "3SPIDERY HA,3YU,3ad zz,5ab hw,3YO,3yp ad zz,3BIG zz,3yp BIG zz,3FITA,3yq,3SHTAPIC",
  "3TROKUTASTI A,3LATINATE MYSLITE,3CAUDATE CHRIVI,1ad aa AZU,3BUKY,3VEDE,3GLAGOLI,3DOBRO,3YESTU",
  "3ZHIVETE,3DZELO,3ZEMLJA,3IZHE,3ap IZHE,3I,3DJERVI,3KAKO,3LJUDIJE,3MYSLITE,3NASHI,3ONU,3POKOJI",
  "3RITSI,3SLOVO,3TVRIDO,3UKU,3FRITU,3HERU,3OTU,3PE,3SHTA,3TSI,3CHRIVI,3kt,3YERU,3YERI,3YATI",
  "3SPIDERY HA,3YU,3ad zz,5ab hw,3YO,3yp ad zz,3BIG zz,3yp BIG zz,3FITA,3yq,3SHTAPIC",
  "3TROKUTASTI A,3LATINATE MYSLITE,3CAUDATE CHRIVI,0ft ac aa L ab al ge,1ad aa L ab al ge",
  "1ac aa L ab bb cq,3P ab at,3R ab hw,1ad aa A ab at,3T ab dl at,1ac aa H ab dc,1ad aa H ab dc",
  "1ac aa K ab dc,1ad aa K ab dc,1ac aa Z ab dc,1ad aa Z ab dc,1ac aa ik,3M ab bw,3ci A,4ik",
  "1ad aa V ab ai bw,1ac aa W ab bw,1ad aa W ab bw,3V ab rf,1ac aa dh H,1ad aa dh H",
  "3TAILLESS PHI,3E ab NOTCH,3ci R ab hw,3O ab is ei kl,1aa ad ac ci E,1pj ad aa J,0ev aa ac V",
  "0ft ac aa S ab SWASH hw,3Z ab SWASH hw,0ij ac aa ALFA,1ad aa ALFA,1ac aa VIDA,1ad aa VIDA",
  "1ac aa lh,1ad aa lh,1ac aa DALDA,1ad aa DALDA,1ac aa EIE,1ad aa EIE,1ac aa SOU,1ad aa SOU",
  "1ac aa ZATA,1ad aa ZATA,1ac aa HATE,1ad aa HATE,1ac aa THETHE,1ad aa THETHE,1ac aa IAUDA",
  "1ad aa IAUDA,1ac aa KAPA,1ad aa KAPA,1ac aa LAULA,1ad aa LAULA,1ac aa MI,1ad aa MI,1ac aa NI",
  "1ad aa NI,1ac aa KSI,1ad aa KSI,1ac aa O,1ad aa O,1ac aa PI,1ad aa PI,1ac aa RO,1ad aa RO",
  "1ac aa SIMA,1ad aa SIMA,1ac aa TAU,1ad aa TAU,1ac aa UA,1ad aa UA,1ac aa FI,1ad aa FI",
  "1ac aa KHI,1ad aa KHI,1ac aa PSI,1ad aa PSI,1ac aa OOU,1ad aa OOU,1ac aa nh ea,1ad aa nh ea",
  "1ac aa oh ij wa,1ad aa oh ij wa,1ac aa il EIE,1ad aa il EIE,1ac aa nh KAPA,1ad aa nh KAPA",
  "1ac aa nh NI,1ad aa nh NI,1ac aa il NI,1ad aa il NI,1ac aa oh ij OOU,1ad aa oh ij OOU",
  "1ac aa SAMPI,1ad aa SAMPI,1ac aa ln SHEI,1ad aa ln SHEI,1ac aa oh ij SHEI,1ad aa oh ij SHEI",
  "1ac aa oh ij ESH,1ad aa oh ij ESH,1ac aa AKHMIMIC KHEI,1ad aa AKHMIMIC KHEI,1ac aa nh HORI",
  "1ad aa nh HORI,1ac aa oh ij HORI,1ad aa oh ij HORI,1ac aa oh ij HA,1ad aa oh ij HA",
  "1ac aa L-SHAPED HA,1ad aa L-SHAPED HA,1ac aa oh ij HEI,1ad aa oh ij HEI,1ac aa oh ij HAT",
  "1ad aa oh ij HAT,1ac aa oh ij GANGIA,1ad aa oh ij GANGIA,1ac aa oh ij DJA,1ad aa oh ij DJA",
  "1ac aa oh ij SHIMA,1ad aa oh ij SHIMA,1ac aa oh uu SHIMA,1ad aa oh uu SHIMA,1ac aa oh uu NGI",
  "1ad aa oh uu NGI,1ac aa oh uu NYI,1ad aa oh uu NYI,1ac aa oh uu WAU,1ad aa oh uu WAU,1au KAI",
  "2MI RO,2PI RO,2STAUROS,2TAU RO,2KHI RO,2SHIMA SIMA,1ac aa il SHEI,1ad aa il SHEI",
  "1ac aa il GANGIA,1ad aa il GANGIA,1dj NI aj,2SPIRITUS ASPER,3LENIS,1ac aa BOHAIRIC KHEI",
  "1ad aa BOHAIRIC KHEI,2cf9=1oh uu if gd,3DIRECT fc bj,3INDIRECT fc bj,3VERSE yf,1hq cs dh",
  "1if gd,1MORPHOLOGICAL yf,0yl ad aa AN,3BAN,3GAN,3DON,3EN,3VIN,3ZEN,3TAN,3IN,3KAN,3LAS,3MAN",
  "3NAR,3ON,3PAR,3ZHAR,3RAE,3SAN,3TAR,3UN,3PHAR,3KHAR,3GHAN,3QAR,3mw,3CHIN,3CAN,3JIL,3CIL,3CHAR",
  "3XAN,3JHAN,3HAE,3HE,3HIE,3WE,3HAR,3HOE,2d27=3YN,2d2d=3AEN,2d30=0TIFINAGH aa YA,2YAB,2YABH",
  "2YAG,2YAGHH,2BERBER ACADEMY YAJ,2YAJ,2YAD,2YADH,2YADD,2YADDH,2YEY,2YAF,2YAK,2TUAREG YAK",
  "2YAKHH,2YAH,2BERBER ACADEMY YAH,2TUAREG YAH,2YAHH,2YAA,2YAKH,2TUAREG YAKH,2YAQ,2TUAREG YAQ",
  "2YI,2YAZH,2AHAGGAR YAZH,2TUAREG YAZH,2YAL,2YAM,2YAN,2TUAREG YAGN,3YANG,2YAP,2YU,2YAR,2YARR",
  "2YAGH,2TUAREG YAGH,2AYER YAGH,2YAS,2YASS,2YASH,2YAT,2YATH,2YACH,2YATT,2YAV,2YAW,2YAY,2YAZ",
  "2TAWELLEMET YAZ,2YAZZ,2YE,2YO,2d6f=1ev aa LABIALIZATION bj,1fh bj,2d7f=1fq JOINER",
  "0ETHIOPIC iu LOA,2MOA,2ROA,2SOA,2SHOA,2BOA,2TOA,2COA,2NOA,2NYOA,2go OA,2ZOA,2DOA,2DDOA,2JOA",
  "2THOA,2CHOA,2PHOA,2POA,2GGWA,2GGWI,2GGWEE,2GGWE,2da0=2ta,2SSU,2SSI,2SSAA,2SSEE,2SSE,2SSO",
  "2da8=2CCA,2CCU,2CCI,2CCAA,2CCEE,2CCE,2CCO,2db0=2ZZA,2ZZU,2ZZI,2ZZAA,2ZZEE,2ZZE,2ZZO",
  "2db8=2CCHA,2CCHU,2CCHI,2CCHAA,2CCHEE,2CCHE,2CCHO,2dc0=2QYA,2QYU,2QYI,2QYAA,2QYEE,2QYE,2QYO",
  "2dc8=2KYA,2KYU,2KYI,2KYAA,2KYEE,2KYE,2KYO,2dd0=2XYA,2XYU,2XYI,2XYAA,2XYEE,2XYE,2XYO,2dd8=2GYA",
  "2GYU,2GYI,2GYAA,2GYEE,2GYE,2GYO,2de0=0dj jr aa BE,3VE,3GHE,3DE,3ZHE,3ZE,3KA,3EL,3EM,3EN,3O",
  "3PE,3ER,3ES,3TE,3HA,3TSE,3CHE,3kt,3SHCHA,3FITA,3ES-TE,3A,3IE,3DJERV,3MONOGRAPH UK,3YAT,3YU",
  "3ir A,3ec zz,3BIG zz,3ir BIG zz,0ai fr mx xa,2fy mx xa,0av mx bd,0ai mx bd,0av fy mx bd",
  "0ai fy mx bd,0ig INTERPOLATION xa,1fy INTERPOLATION xa,0fy wl xa,0av wl bd,0ai wl bd,0ig bn",
  "0av ig OMISSION bd,0ai ig OMISSION bd,0EDITORIAL CORONIS,0PARAGRAPHOS,0FORKED PARAGRAPHOS",
  "0bq FORKED PARAGRAPHOS,0HYPODIASTOLE,0fy OBELOS,0ay ANCORA,0bp ANCORA,0fy da fr,0al kr py",
  "0ca qx,0PALM BRANCH,0py ab bk,0cq ab ei aj,0av is PARAPHRASE bd,0ai is PARAPHRASE bd",
  "0cq ab cz aj,3aq,0av an ge ab QUILL,0ai an ge ab QUILL,0sb av dh bd,1ai dh bd,0gz av dh bd",
  "1ai dh bd,0av ok U bd,0ai ok U bd,0av al cd,0ai al cd,0co du dy cs cz cc,0cs cz dy co du cc",
  "0fb bt cz cc,0by cz bj,0bq fc bj,0an cq,0ei tk,0zv fh bb cz,0ci et,0ig cz,1et,0ci jt",
  "0DAGGER ab av GUARD,2ai GUARD,0ci DAGGER,0sb dh hi ak,0TWO-EM jw,0THREE-EM jw",
  "0STENOGRAPHIC if gd,0an fx du,0WIGGLY an gv,0CAPITULUM,0al py,0bq et,0al LOW-REVERSED-9 eg bj",
  "0jw ab av UPTURN,0al SUSPENSION bj,0ca is KAVYKA,3ab KAVYKA aj,0is KAVYKA,2ab cz",
  "0al STACKED et,0fy hj,0es DAGGER,0MEDIEVAL et,0PARAGRAPHUS bj,0PUNCTUS ELEVATUS bj",
  "0CORNISH VERSE yf,0gr PATTY ab ai CROSSBAR,3av CROSSBAR,0TIRONIAN ak ac ET,0MEDIEVAL dw bj",
  "1fc bj,0av bn bd ab at,0ai bn bd ab at,0av bn bd ab al at,0ai bn bd ab al at,0sb dh av cd",
  "2ai cd,0gz dh av cd,2ai cd,0kr py,2e80=0CJK RADICAL REPEAT,2CLIFF,2SECOND cs,3co,3aw,2ly,2BOX",
  "2TABLE,2KNIFE cs,3co,2DIVINATION,2SEAL,2ad cs,3co,2LAME cs,3co,3aw,3bt,2SNAKE,2THREAD",
  "2SNOUT cs,3co,2jm cs,3co,2mf,2RAP,2e9b=2CHOKE,2SUN,2oo,2DEATH,2MOTHER,2CIVILIAN,2tm cs,3co",
  "2FIRE,2PAW cs,3co,2xj dh TREE TRUNK,2COW,2DOG,2JADE,2BOLT OF CLOTH,2EYE,2SPIRIT cs,3co",
  "2BAMBOO,2SILK,2gb SILK,2NET cs,3co,3aw,3bt,2MESH,2SHEEP,2RAM,2EWE,2oh,2BRUSH cs,3co,2MEAT",
  "2MORTAR,2GRASS cs,3co,3aw,2TIGER,2CLOTHES,2ic cs,3co,2gb SEE,2xj le,2le,2gb SPEECH,3ky,2FOOT",
  "2gb CART,2xj WALK,2WALK cs,3co,2CITY,2gb GOLD,2fk cs,3co,2gb fk,3GATE,2MOUND cs,3co,2RAIN",
  "2BLUE,2gb TANNED LEATHER,3rj,3WIND,3FLY,2EAT cs,3co,3aw,2gb EAT,2tp,2gb HORSE,2BONE,2GHOST",
  "2gb FISH,3BIRD,3SALT,2xj WHEAT,3YELLOW,2gb FROG,2so EVEN,2gb EVEN,2so TOOTH,2gb TOOTH,2so wp",
  "2gb wp,2TURTLE,2so TURTLE,2gb TURTLE,2f00=0KANGXI RADICAL cs,2gv,2cz,2qk,2SECOND,2bw,2co,2LID",
  "2MAN,2LEGS,2ENTER,2br,2dg BOX,2COVER,2ICE,2TABLE,2fg BOX,2KNIFE,2POWER,2WRAP,2SPOON",
  "2ai fg BOX,2HIDING ENCLOSURE,2jx,2DIVINATION,2SEAL,2CLIFF,2PRIVATE,2AGAIN,2md,2ENCLOSURE,2rq",
  "2SCHOLAR,2GO,3SLOWLY,2EVENING,2BIG,2WOMAN,2CHILD,2ROOF,2INCH,2ad,2LAME,2CORPSE,2SPROUT,2qa",
  "2RIVER,2WORK,2ONESELF,2TURBAN,2DRY,2fu THREAD,2fy CLIFF,2fk STRIDE,2co HANDS,2SHOOT,2BOW",
  "2SNOUT,2BRISTLE,2STEP,2jm,2HALBERD,2DOOR,2mf,2BRANCH,2RAP,2it,2DIPPER,2AXE,2bn,2mt,2SUN,2SAY",
  "2oo,2TREE,2LACK,2gd,2DEATH,2WEAPON,2DO mt,2COMPARE,2FUR,2CLAN,2STEAM,2tm,2FIRE,2CLAW,2FATHER",
  "2al X,2dh TREE TRUNK,2SLICE,2FANG,2COW,2DOG,2PROFOUND,2JADE,2MELON,2TILE,2SWEET,2LIFE,2USE",
  "2FIELD,2BOLT OF CLOTH,2SICKNESS,2fy TENT,2bc,2SKIN,2qs,2EYE,2SPEAR,2ae,2STONE,2SPIRIT,2TRACK",
  "2GRAIN,2CAVE,2STAND,2BAMBOO,2RICE,2SILK,2JAR,2NET,2SHEEP,2FEATHER,2oh,2bi,2PLOW,2EAR,2BRUSH",
  "2MEAT,2MINISTER,2SELF,2ARRIVE,2MORTAR,2TONGUE,2OPPOSE,2BOAT,2STOPPING,2COLOR,2GRASS,2TIGER",
  "2INSECT,2BLOOD,2WALK ENCLOSURE,2CLOTHES,2ic,2SEE,2le,2SPEECH,2VALLEY,2BEAN,2PIG,2BADGER,2ky",
  "2RED,2RUN,2FOOT,2BODY,2CART,2BITTER,2MORNING,2WALK,2CITY,2WINE,2DISTINGUISH,2VILLAGE,2GOLD",
  "2fk,2GATE,2MOUND,2SLAVE,2fu TAILED BIRD,2RAIN,2BLUE,2WRONG,2ds,2LEATHER,2TANNED LEATHER,2LEEK",
  "2ov,2rj,2WIND,2FLY,2EAT,2tp,2FRAGRANT,2HORSE,2BONE,2TALL,2HAIR,2FIGHT,2SACRIFICIAL WINE",
  "2CAULDRON,2GHOST,2FISH,2BIRD,2SALT,2DEER,2WHEAT,2HEMP,2YELLOW,2MILLET,2ax,2EMBROIDERY,2FROG",
  "2TRIPOD,2DRUM,2RAT,2NOSE,2EVEN,2TOOTH,2wp,2TURTLE,2FLUTE,2ff0=0gt DESCRIPTION ma av TO ai",
  "3aj TO aq,3av TO bb bi ai,3aj TO bb bi aq,3if SURROUND,3SURROUND me aj,5aq,5av,5dr av,6ai",
  "5cu av,3OVERLAID,3000=1ll,1et,1if gd,0DITTO bj,0ru INDUSTRIAL STANDARD au,0gt mb bj",
  "1CLOSING bj,1dq ex,0av fr bd,0ai fr bd,0av al fr bd,0ai al fr bd,0av ha bd,0ai ha bd",
  "0av bc ha bd,0ai bc ha bd,0av ax lx bd,0ai ax lx bd,0POSTAL bj,0GETA bj,0av ib ky bd",
  "0ai ib ky bd,0av bc lx bd,0ai bc lx bd,0av bc ib ky bd,0ai bc ib ky bd,0av bc bn bd",
  "0ai bc bn bd,0rn jw,0bq al uv eg bj,0al uv eg bj,0is al uv eg bj,0POSTAL bj ds",
  "0HANGZHOU pb cs,2co,2aw,2bt,2by,2fx,2bv,2br,2dm,0gt LEVEL fo bj,1op fo bj,1DEPARTING fo bj",
  "1ENTERING fo bj,0ui de cz fo bj,1al cz fo bj,0WAVY jw,0an KANA REPEAT bj,3ab tg ov bj",
  "3bj dr dh,3ab tg ov bj dr dh,3bj cu dh,0dk POSTAL bj,0gt TELEGRAPH gv FEED fh au",
  "0HANGZHOU pb jx,2fl,2jk,0an gt mb bj,0MASU bj,0PART ALTERNATION bj,0gt VARIATION nj",
  "1dh FILL ll,3041=0uj aa ad A,2A,2ad I,2I,2ad U,2U,2ad E,2E,2ad O,2O,2KA,2GA,2KI,2GI,2KU,2GU",
  "2KE,2GE,2KO,2GO,2SA,2ZA,2SI,2ZI,2SU,2ZU,2SE,2ZE,2SO,2ZO,2TA,2DA,2TI,2DI,2ad TU,2TU,2DU,2TE",
  "2DE,2TO,2DO,2NA,2NI,2NU,2NE,2NO,2HA,2BA,2PA,2HI,2BI,2PI,2HU,2BU,2PU,2HE,2BE,2PE,2HO,2BO,2PO",
  "2MA,2MI,2MU,2ME,2MO,2ad YA,2YA,2ad YU,2YU,2ad YO,2YO,2RA,2RI,2RU,2RE,2RO,2ad WA,2WA,2WI,2WE",
  "2WO,2N,2VU,2ad KA,3KE,3099=0dj ko tg ov bj,2SEMI-VOICED ov bj,0ko tg ov bj,1SEMI-VOICED ov bj",
  "0uj mb bj,1tg mb bj,1gm YORI,0ko al py,0li aa ad A,2A,2ad I,2I,2ad U,2U,2ad E,2E,2ad O,2O,2KA",
  "2GA,2KI,2GI,2KU,2GU,2KE,2GE,2KO,2GO,2SA,2ZA,2SI,2ZI,2SU,2ZU,2SE,2ZE,2SO,2ZO,2TA,2DA,2TI,2DI",
  "2ad TU,2TU,2DU,2TE,2DE,2TO,2DO,2NA,2NI,2NU,2NE,2NO,2HA,2BA,2PA,2HI,2BI,2PI,2HU,2BU,2PU,2HE",
  "2BE,2PE,2HO,2BO,2PO,2MA,2MI,2MU,2ME,2MO,2ad YA,2YA,2ad YU,2YU,2ad YO,2YO,2RA,2RI,2RU,2RE,2RO",
  "2ad WA,2WA,2WI,2WE,2WO,2N,2VU,2ad KA,3KE,2VA,2VI,2VE,2VO,1bb cz,0ko PROLONGED ov bj,0li mb bj",
  "1tg mb bj,1gm KOTO,3105=0BOPOMOFO aa B,2P,2M,2F,2D,2T,2N,2L,2G,2K,2H,2J,2Q,2X,2ZH,2CH,2SH,2R",
  "2Z,2C,2S,2A,2O,2E,2EH,2AI,2EI,2AU,2OU,2AN,2EN,2ANG,2ENG,2ER,2I,2U,2IU,2V,2NG,2GN,2IH",
  "2O ab cz aj,2NN,3131=0ui aa ww,2ve,2KIYEOK-SIOS,2NIEUN,2us,2ut,2xo,2vf,2RIEUL,2sv,2uy,2uz,2xe",
  "2wj,2wi,2ux,2MIEUM,2PIEUP,2xm,2xd,2SIOS,2SSANGSIOS,2IEUNG,2CIEUC,2xl,2sj,2sp,2td,2su,2HIEUH",
  "2A,2AE,2YA,2YAE,2EO,2E,2YEO,2YE,2O,2WA,2WAE,2OE,2YO,2U,2WEO,2WE,2WI,2YU,2EU,2YI,2I,1ue",
  "1aa SSANGNIEUN,2yz,2NIEUN-SIOS,2NIEUN-PANSIOS,2zh,2zj,2RIEUL-PIEUP-SIOS,2RIEUL-PANSIOS,2zk",
  "2MIEUM-PIEUP,2MIEUM-SIOS,2MIEUM-PANSIOS,2wd,2PIEUP-KIYEOK,2zf,2ze,2rb,2PIEUP-CIEUC",
  "2PIEUP-THIEUTH,2we,2wv,2SIOS-KIYEOK,2SIOS-NIEUN,2SIOS-TIKEUT,2SIOS-PIEUP,2SIOS-CIEUC,2PANSIOS",
  "2SSANGIEUNG,2YESIEUNG,2YESIEUNG-SIOS,2YESIEUNG-PANSIOS,2ti,2SSANGHIEUH,2YEORINHIEUH,2YO-YA",
  "2YO-YAE,2YO-I,2YU-YEO,2YU-YE,2YU-I,2ARAEA,2ARAEAE,3190=0gt ANNOTATION LINKING bj,2ie bj",
  "2cs bj,2co bj,2aw bj,2bt bj,2sb bj,2bb bj,2gz bj,2FIRST bj,2SECOND bj,2tl bj,2FOURTH bj",
  "2HEAVEN bj,2rq bj,2MAN bj,0BOPOMOFO aa BU,2ZI,2JI,2GU,2EE,2ENN,2OO,2ONN,2IR,2ANN,2INN,2UNN",
  "2IM,2NGG,2AINN,2AUNN,2AM,2OM,2ONG,2INNN,1ar aa P,3T,3K,3H,1aa GH,2LH,2ZY,1ar aa G,1aa GW,2KW",
  "2OE,2AH,0CJK at T,2WG,2XG,2BXG,2SW,2HZZ,2HZG,2HP,2HZWG,2SZWG,2HZT,2HZZP,2HPWG,2HZW,2HZZZ,2N",
  "2H,2S,2P,2SP,2D,2HZ,2HG,2SZ,2SWZ,2ST,2SG,2PD,2PZ,2TN,2SZZ,2SWG,2HXWG,2HZZZG,2PG,2Q",
  "31f0=0li aa ad KU,3SI,3SU,3TO,3NU,3HA,3HI,3HU,3HE,3HO,3MU,3RA,3RI,3RU,3RE,3RO,0rl ui ww",
  "2NIEUN,2xo,2RIEUL,2MIEUM,2PIEUP,2SIOS,2IEUNG,2CIEUC,2sj,2sp,2td,2su,2HIEUH,2ww A,2NIEUN A",
  "2xo A,2RIEUL A,2MIEUM A,2PIEUP A,2SIOS A,2IEUNG A,2CIEUC A,2sj A,2sp A,2td A,2su A,2HIEUH A",
  "2CIEUC U,1KOREAN ma OJEON,3O HU,3220=1IDEOGRAPH cs,2co,2aw,2bt,2by,2fx,2bv,2br,2dm,2jx,2oo",
  "2FIRE,2tm,2WOOD,2METAL,2rq,2SUN,2STOCK,2HAVE,2SOCIETY,2NAME,2SPECIAL,2FINANCIAL",
  "2CONGRATULATION,2LABOR,2REPRESENT,2CALL,2STUDY,2SUPERVISE,2ENTERPRISE,2RESOURCE,2ALLIANCE",
  "2FESTIVAL,2uw,2SELF,2REACH,0dk IDEOGRAPH fc,2KINDERGARTEN,2SCHOOL,2KOTO,1dq jx ON ax bn",
  "2fl ON ax bn,2jk ON ax bn,2od ON ax bn,2im ON ax bn,2ou ON ax bn,2fe ON ax bn,2mm ON ax bn",
  "0PARTNERSHIP ak,0dk dq fl cs,3co,3aw,3bt,3by,3fx,3bv,3br,3dm,2jk,3cs,3co,3aw,3bt,3by,1ui ww",
  "2NIEUN,2xo,2RIEUL,2MIEUM,2PIEUP,2SIOS,2IEUNG,2CIEUC,2sj,2sp,2td,2su,2HIEUH,2ww A,2NIEUN A",
  "2xo A,2RIEUL A,2MIEUM A,2PIEUP A,2SIOS A,2IEUNG A,2CIEUC A,2sj A,2sp A,2td A,2su A,2HIEUH A",
  "1KOREAN ma CHAMKO,3JUEUI,1ui IEUNG U,0KOREAN STANDARD au,0dk IDEOGRAPH cs,2co,2aw,2bt,2by,2fx",
  "2bv,2br,2dm,2jx,2oo,2FIRE,2tm,2WOOD,2METAL,2rq,2SUN,2STOCK,2HAVE,2SOCIETY,2NAME,2SPECIAL",
  "2FINANCIAL,2CONGRATULATION,2LABOR,2SECRET,2MALE,2FEMALE,2SUITABLE,2EXCELLENT,2PRINT",
  "2ATTENTION,2ITEM,2uw,2COPY,2CORRECT,2fz,2dz,2is,2av,2ai,2MEDICINE,2RELIGION,2STUDY,2SUPERVISE",
  "2ENTERPRISE,2RESOURCE,2ALLIANCE,2NIGHT,1dq jk fx,3bv,3br,3dm,2od,3cs,3co,3aw,3bt,3by,3fx,3bv",
  "3br,3dm,2im,0gt TELEGRAPH au to JANUARY,4FEBRUARY,4MARCH,4APRIL,4MAY,4JUNE,4JULY,4AUGUST",
  "4SEPTEMBER,4OCTOBER,4NOVEMBER,4DECEMBER,0bn HG,1ERG,1EV,0LIMITED LIABILITY ak,0dk li A,2I,2U",
  "2E,2O,2KA,2KI,2KU,2KE,2KO,2SA,2SI,2SU,2SE,2SO,2TA,2TI,2TU,2TE,2TO,2NA,2NI,2NU,2NE,2NO,2HA,2HI",
  "2HU,2HE,2HO,2MA,2MI,2MU,2ME,2MO,2YA,2YU,2YO,2RA,2RI,2RU,2RE,2RO,2WA,2WI,2WE,2WO",
  "0bn ERA NAME REIWA,1APAATO,1ARUHUA,1ANPEA,1AARU,1ININGU,1INTI,1UON,1ESUKUUDO,1EEKAA,1ONSU",
  "1OOMU,1KAIRI,1KARATTO,1KARORII,1GARON,1GANMA,1GIGA,1GINII,1KYURII,1GIRUDAA,1KIRO,1KIROGURAMU",
  "1KIROMEETORU,1KIROWATTO,1GURAMU,1GURAMUTON,1KURUZEIRO,1KUROONE,1KEESU,1KORUNA,1KOOPO,1SAIKURU",
  "1SANTIIMU,1SIRINGU,1SENTI,1SENTO,1DAASU,1DESI,1DORU,1TON,1NANO,1NOTTO,1HAITU,1PAASENTO,1PAATU",
  "1BAARERU,1PIASUTORU,1PIKURU,1PIKO,1BIRU,1HUARADDO,1HUIITO,1BUSSYERU,1HURAN,1HEKUTAARU,1PESO",
  "1PENIHI,1HERUTU,1PENSU,1PEEZI,1BEETA,1POINTO,1BORUTO,1HON,1PONDO,1HOORU,1HOON,1MAIKURO,1MAIRU",
  "1MAHHA,1MARUKU,1MANSYON,1MIKURON,1MIRI,1MIRIBAARU,1MEGA,1MEGATON,1MEETORU,1YAADO,1YAARU,1YUAN",
  "1RITTORU,1RIRA,1RUPII,1RUUBURU,1REMU,1RENTOGEN,1WATTO,0gt TELEGRAPH au to HOUR ex,5cs,5co,5aw",
  "5bt,5by,5fx,5bv,5br,5dm,5jx,5pr,5np,5qo,5pv,5nv,5pd,5nl,5ob,5qc,5fl,5TWENTY-ONE,5TWENTY-TWO",
  "5TWENTY-THREE,5TWENTY-FOUR,0bn HPA,1DA,1AU,1ge,1OV,1PC,1DM,2fb,2CUBED,1IU,1ERA NAME HEISEI",
  "3SYOUWA,3TAISYOU,3MEIZI,1CORPORATION,1PA AMPS,1NA,1MU A,1MA,1KA,1KB,1MB,1GB,1CAL,1KCAL,1PF",
  "1NF,1MU F,2G,1MG,1KG,1HZ,1KHZ,1MHZ,1GHZ,1THZ,1MU L,1ML,1DL,1KL,1FM,1NM,1MU M,1MM,1CM,1KM",
  "1MM fb,1CM fb,1M fb,1KM fb,1MM CUBED,1CM CUBED,1M CUBED,1KM CUBED,1M dy S,4fb,1PA,1KPA,1MPA",
  "1GPA,1RAD,2dy S,4fb,1PS,1NS,1MU S,1MS,1PV,1NV,1MU V,1MV,1KV,1MV MEGA,1PW,1NW,1MU W,1MW,1KW",
  "1MW MEGA,1K OHM,1M OHM,1AM,1BQ,1CC,1CD,1C dy KG,1CO,1DB,1GY,1HA,1HP,1IN,1KK,1KM ac,1KT,1LM",
  "1LN,1LOG,1LX,1MB ad,1MIL,1MOL,1PH,1PM,1PPM,1PR,1SR,1SV,1WB,1V dy M,1A dy M",
  "0gt TELEGRAPH au to DAY cs,5co,5aw,5bt,5by,5fx,5bv,5br,5dm,5jx,5pr,5np,5qo,5pv,5nv,5pd,5nl",
  "5ob,5qc,5fl,5TWENTY-ONE,5TWENTY-TWO,5TWENTY-THREE,5TWENTY-FOUR,5vk,5TWENTY-SIX,5TWENTY-SEVEN",
  "5TWENTY-EIGHT,5TWENTY-NINE,5jk,5THIRTY-ONE,0bn GAL,4dc0=0HEXAGRAM to tr CREATIVE HEAVEN",
  "3RECEPTIVE rq,2DIFFICULTY AT tr BEGINNING,2YOUTHFUL FOLLY,2WAITING,2CONFLICT,2tr ARMY",
  "2yn TOGETHER,2ad TAMING,2TREADING,2PEACE,2STANDSTILL,2FELLOWSHIP,2GREAT POSSESSION,2MODESTY",
  "2ENTHUSIASM,2FOLLOWING,2WORK ON tr DECAYED,2APPROACH,2CONTEMPLATION,2BITING lc,2GRACE",
  "2SPLITTING APART,2RETURN,2INNOCENCE,2GREAT TAMING,2md ya,2GREAT PREPONDERANCE,2tr ABYSMAL tm",
  "3CLINGING FIRE,2INFLUENCE,2DURATION,2RETREAT,2GREAT POWER,2PROGRESS,2DARKENING OF tr cl",
  "2tr FAMILY,2OPPOSITION,2OBSTRUCTION,2DELIVERANCE,2DECREASE,2INCREASE,2BREAKTHROUGH",
  "2COMING TO MEET,2GATHERING TOGETHER,2PUSHING UPWARD,2OPPRESSION,2tr WELL,2REVOLUTION",
  "2tr CAULDRON,3AROUSING THUNDER,3KEEPING STILL qa,2DEVELOPMENT,2tr MARRYING MAIDEN,2ABUNDANCE",
  "2tr WANDERER,3GENTLE WIND,3JOYOUS LAKE,2DISPERSION,2LIMITATION,2INNER TRUTH,2ad PREPONDERANCE",
  "2AFTER COMPLETION,2BEFORE COMPLETION,a000=0YI iu IT,2IX,2I,2IP,2IET,2IEX,2IE,2IEP,2AT,2AX,2A",
  "2AP,2UOX,2UO,2UOP,2OT,2OX,2O,2OP,2EX,2E,2WU,2BIT,2BIX,2BI,2BIP,2BIET,2BIEX,2BIE,2BIEP,2BAT",
  "2BAX,2BA,2BAP,2BUOX,2BUO,2BUOP,2BOT,2BOX,2BO,2BOP,2BEX,2BE,2BEP,2BUT,2BUX,2BU,2BUP,2BURX,2BUR",
  "2BYT,2BYX,2BY,2BYP,2BYRX,2BYR,2PIT,2PIX,2PI,2PIP,2PIEX,2PIE,2PIEP,2PAT,2PAX,2PA,2PAP,2PUOX",
  "2PUO,2PUOP,2POT,2POX,2PO,2POP,2PUT,2PUX,2PU,2PUP,2PURX,2PUR,2PYT,2PYX,2PY,2PYP,2PYRX,2PYR",
  "2BBIT,2BBIX,2BBI,2BBIP,2BBIET,2BBIEX,2BBIE,2BBIEP,2BBAT,2BBAX,2BBA,2BBAP,2BBUOX,2BBUO,2BBUOP",
  "2BBOT,2BBOX,2BBO,2BBOP,2BBEX,2BBE,2BBEP,2BBUT,2BBUX,2BBU,2BBUP,2BBURX,2BBUR,2BBYT,2BBYX,2BBY",
  "2BBYP,2NBIT,2NBIX,2NBI,2NBIP,2NBIEX,2NBIE,2NBIEP,2NBAT,2NBAX,2NBA,2NBAP,2NBOT,2NBOX,2NBO",
  "2NBOP,2NBUT,2NBUX,2NBU,2NBUP,2NBURX,2NBUR,2NBYT,2NBYX,2NBY,2NBYP,2NBYRX,2NBYR,2HMIT,2HMIX",
  "2HMI,2HMIP,2HMIEX,2HMIE,2HMIEP,2HMAT,2HMAX,2HMA,2HMAP,2HMUOX,2HMUO,2HMUOP,2HMOT,2HMOX,2HMO",
  "2HMOP,2HMUT,2HMUX,2HMU,2HMUP,2HMURX,2HMUR,2HMYX,2HMY,2HMYP,2HMYRX,2HMYR,2MIT,2MIX,2MI,2MIP",
  "2MIEX,2MIE,2MIEP,2MAT,2MAX,2MA,2MAP,2MUOT,2MUOX,2MUO,2MUOP,2MOT,2MOX,2MO,2MOP,2MEX,2ME,2MUT",
  "2MUX,2MU,2MUP,2MURX,2MUR,2MYT,2MYX,2MY,2MYP,2FIT,2FIX,2FI,2FIP,2FAT,2FAX,2FA,2FAP,2FOX,2FO",
  "2FOP,2FUT,2FUX,2FU,2FUP,2FURX,2FUR,2FYT,2FYX,2FY,2FYP,2VIT,2VIX,2VI,2VIP,2VIET,2VIEX,2VIE",
  "2VIEP,2VAT,2VAX,2VA,2VAP,2VOT,2VOX,2VO,2VOP,2VEX,2VEP,2VUT,2VUX,2VU,2VUP,2VURX,2VUR,2VYT,2VYX",
  "2VY,2VYP,2VYRX,2VYR,2DIT,2DIX,2DI,2DIP,2DIEX,2DIE,2DIEP,2DAT,2DAX,2DA,2DAP,2DUOX,2DUO,2cz",
  "2DOX,2DO,2DOP,2DEX,2DE,2DEP,2DUT,2DUX,2DU,2DUP,2DURX,2DUR,2TIT,2TIX,2TI,2TIP,2TIEX,2TIE,2TIEP",
  "2TAT,2TAX,2TA,2TAP,2TUOT,2TUOX,2TUO,2TUOP,2TOT,2TOX,2TO,2sb,2TEX,2TE,2TEP,2TUT,2TUX,2TU,2TUP",
  "2TURX,2TUR,2DDIT,2DDIX,2DDI,2DDIP,2DDIEX,2DDIE,2DDIEP,2DDAT,2DDAX,2ph,2DDAP,2DDUOX,2DDUO",
  "2DDUOP,2DDOT,2DDOX,2DDO,2DDOP,2DDEX,2DDE,2DDEP,2DDUT,2DDUX,2DDU,2DDUP,2DDURX,2DDUR,2NDIT",
  "2NDIX,2NDI,2NDIP,2NDIEX,2NDIE,2NDAT,2NDAX,2NDA,2NDAP,2NDOT,2NDOX,2NDO,2NDOP,2NDEX,2NDE,2NDEP",
  "2NDUT,2NDUX,2NDU,2NDUP,2NDURX,2NDUR,2HNIT,2HNIX,2HNI,2HNIP,2HNIET,2HNIEX,2HNIE,2HNIEP,2HNAT",
  "2HNAX,2HNA,2HNAP,2HNUOX,2HNUO,2HNOT,2HNOX,2HNOP,2HNEX,2HNE,2HNEP,2HNUT,2NIT,2NIX,2NI,2NIP",
  "2NIEX,2NIE,2NIEP,2NAX,2NA,2NAP,2NUOX,2NUO,2NUOP,2mt,2NOX,2NO,2NOP,2NEX,2NE,2NEP,2NUT,2NUX,2NU",
  "2NUP,2NURX,2NUR,2HLIT,2HLIX,2HLI,2HLIP,2HLIEX,2HLIE,2HLIEP,2HLAT,2HLAX,2HLA,2HLAP,2HLUOX",
  "2HLUO,2HLUOP,2HLOX,2HLO,2HLOP,2HLEX,2HLE,2HLEP,2HLUT,2HLUX,2HLU,2HLUP,2HLURX,2HLUR,2HLYT",
  "2HLYX,2HLY,2HLYP,2HLYRX,2HLYR,2LIT,2LIX,2LI,2LIP,2LIET,2LIEX,2LIE,2LIEP,2LAT,2LAX,2LA,2LAP",
  "2LUOT,2LUOX,2LUO,2LUOP,2LOT,2LOX,2LO,2LOP,2LEX,2LE,2LEP,2LUT,2LUX,2LU,2LUP,2LURX,2LUR,2LYT",
  "2LYX,2LY,2LYP,2LYRX,2LYR,2GIT,2GIX,2GI,2GIP,2GIET,2GIEX,2GIE,2GIEP,2GAT,2GAX,2GA,2GAP,2GUOT",
  "2GUOX,2GUO,2GUOP,2GOT,2GOX,2GO,2GOP,2GET,2GEX,2GE,2GEP,2GUT,2GUX,2GU,2GUP,2GURX,2GUR,2KIT",
  "2KIX,2KI,2KIP,2KIEX,2KIE,2KIEP,2KAT,2KAX,2KA,2KAP,2KUOX,2KUO,2KUOP,2KOT,2KOX,2KO,2KOP,2KET",
  "2KEX,2KE,2KEP,2KUT,2KUX,2KU,2KUP,2KURX,2KUR,2GGIT,2GGIX,2GGI,2GGIEX,2GGIE,2GGIEP,2GGAT,2GGAX",
  "2GGA,2GGAP,2GGUOT,2GGUOX,2GGUO,2GGUOP,2GGOT,2GGOX,2GGO,2GGOP,2GGET,2GGEX,2GGE,2GGEP,2GGUT",
  "2GGUX,2GGU,2GGUP,2GGURX,2GGUR,2MGIEX,2MGIE,2MGAT,2MGAX,2MGA,2MGAP,2MGUOX,2MGUO,2MGUOP,2MGOT",
  "2MGOX,2MGO,2MGOP,2MGEX,2MGE,2MGEP,2MGUT,2MGUX,2MGU,2MGUP,2MGURX,2MGUR,2HXIT,2HXIX,2HXI,2HXIP",
  "2HXIET,2HXIEX,2HXIE,2HXIEP,2HXAT,2HXAX,2HXA,2HXAP,2HXUOT,2HXUOX,2HXUO,2HXUOP,2HXOT,2HXOX,2HXO",
  "2HXOP,2HXEX,2HXE,2HXEP,2NGIEX,2NGIE,2NGIEP,2NGAT,2NGAX,2kp,2NGAP,2NGUOT,2NGUOX,2NGUO,2NGOT",
  "2NGOX,2NGO,2NGOP,2NGEX,2NGE,2NGEP,2HIT,2HIEX,2HIE,2HAT,2HAX,2HA,2HAP,2HUOT,2HUOX,2HUO,2HUOP",
  "2HOT,2HOX,2HO,2HOP,2HEX,2HE,2HEP,2WAT,2WAX,2WA,2WAP,2WUOX,2WUO,2WUOP,2WOX,2WO,2WOP,2WEX,2WE",
  "2WEP,2ZIT,2ZIX,2ZI,2ZIP,2ZIEX,2ZIE,2ZIEP,2ZAT,2ZAX,2ZA,2ZAP,2ZUOX,2ZUO,2ZUOP,2ZOT,2ZOX,2ZO",
  "2ZOP,2ZEX,2ZE,2ZEP,2ZUT,2ZUX,2ZU,2ZUP,2ZURX,2ZUR,2ZYT,2ZYX,2ZY,2ZYP,2ZYRX,2ZYR,2CIT,2CIX,2CI",
  "2CIP,2CIET,2CIEX,2CIE,2CIEP,2CAT,2CAX,2CA,2CAP,2CUOX,2CUO,2CUOP,2COT,2COX,2CO,2COP,2CEX,2CE",
  "2CEP,2CUT,2CUX,2CU,2CUP,2CURX,2CUR,2CYT,2CYX,2CY,2CYP,2CYRX,2CYR,2ZZIT,2ZZIX,2ZZI,2ZZIP",
  "2ZZIET,2ZZIEX,2ZZIE,2ZZIEP,2ZZAT,2ZZAX,2ZZA,2ZZAP,2ZZOX,2ZZO,2ZZOP,2ZZEX,2ZZE,2ZZEP,2ZZUX",
  "2ZZU,2ZZUP,2ZZURX,2ZZUR,2ZZYT,2ZZYX,2ZZY,2ZZYP,2ZZYRX,2ZZYR,2NZIT,2NZIX,2NZI,2NZIP,2NZIEX",
  "2NZIE,2NZIEP,2NZAT,2NZAX,2NZA,2NZAP,2NZUOX,2NZUO,2NZOX,2NZOP,2NZEX,2NZE,2NZUX,2NZU,2NZUP",
  "2NZURX,2NZUR,2NZYT,2NZYX,2NZY,2NZYP,2NZYRX,2NZYR,2SIT,2fx,2SI,2SIP,2SIEX,2SIE,2SIEP,2SAT,2SAX",
  "2SA,2SAP,2SUOX,2SUO,2SUOP,2SOT,2SOX,2SO,2SOP,2SEX,2SE,2SEP,2SUT,2SUX,2SU,2SUP,2SURX,2SUR,2SYT",
  "2SYX,2SY,2SYP,2SYRX,2SYR,2SSIT,2SSIX,2SSI,2SSIP,2SSIEX,2SSIE,2SSIEP,2SSAT,2SSAX,2ta,2SSAP",
  "2SSOT,2SSOX,2SSO,2SSOP,2SSEX,2SSE,2SSEP,2SSUT,2SSUX,2SSU,2SSUP,2SSYT,2SSYX,2SSY,2SSYP,2SSYRX",
  "2SSYR,2ZHAT,2ZHAX,2ZHA,2ZHAP,2ZHUOX,2ZHUO,2ZHUOP,2ZHOT,2ZHOX,2ZHO,2ZHOP,2ZHET,2ZHEX,2ZHE",
  "2ZHEP,2ZHUT,2ZHUX,2ZHU,2ZHUP,2ZHURX,2ZHUR,2ZHYT,2ZHYX,2ZHY,2ZHYP,2ZHYRX,2ZHYR,2CHAT,2CHAX,2lg",
  "2CHAP,2CHUOT,2CHUOX,2CHUO,2CHUOP,2CHOT,2CHOX,2CHO,2CHOP,2CHET,2CHEX,2CHE,2CHEP,2CHUX,2CHU",
  "2CHUP,2CHURX,2CHUR,2CHYT,2CHYX,2CHY,2CHYP,2CHYRX,2CHYR,2RRAX,2RRA,2RRUOX,2RRUO,2RROT,2RROX",
  "2RRO,2RROP,2RRET,2RREX,2RRE,2RREP,2RRUT,2RRUX,2RRU,2RRUP,2RRURX,2RRUR,2RRYT,2RRYX,2RRY,2RRYP",
  "2RRYRX,2RRYR,2NRAT,2NRAX,2NRA,2NRAP,2NROX,2NRO,2NROP,2NRET,2NREX,2NRE,2NREP,2NRUT,2NRUX,2NRU",
  "2NRUP,2NRURX,2NRUR,2NRYT,2NRYX,2NRY,2NRYP,2NRYRX,2NRYR,2SHAT,2SHAX,2kt,2SHAP,2SHUOX,2SHUO",
  "2SHUOP,2SHOT,2SHOX,2SHO,2SHOP,2SHET,2SHEX,2vz,2SHEP,2SHUT,2SHUX,2SHU,2SHUP,2SHURX,2SHUR,2SHYT",
  "2SHYX,2SHY,2SHYP,2SHYRX,2SHYR,2RAT,2RAX,2RA,2RAP,2RUOX,2RUO,2RUOP,2ROT,2ROX,2RO,2ROP,2REX,2RE",
  "2REP,2RUT,2RUX,2RU,2RUP,2RURX,2RUR,2RYT,2RYX,2RY,2RYP,2RYRX,2RYR,2JIT,2JIX,2JI,2JIP,2JIET",
  "2JIEX,2JIE,2JIEP,2JUOT,2JUOX,2JUO,2JUOP,2JOT,2JOX,2JO,2JOP,2JUT,2JUX,2JU,2JUP,2JURX,2JUR,2JYT",
  "2JYX,2JY,2JYP,2JYRX,2JYR,2QIT,2QIX,2QI,2QIP,2QIET,2QIEX,2QIE,2QIEP,2QUOT,2QUOX,2QUO,2QUOP",
  "2QOT,2QOX,2QO,2QOP,2QUT,2QUX,2QU,2QUP,2QURX,2QUR,2QYT,2QYX,2QY,2QYP,2QYRX,2QYR,2JJIT,2JJIX",
  "2JJI,2JJIP,2JJIET,2JJIEX,2JJIE,2JJIEP,2JJUOX,2JJUO,2JJUOP,2JJOT,2JJOX,2JJO,2JJOP,2JJUT,2JJUX",
  "2JJU,2JJUP,2JJURX,2JJUR,2JJYT,2JJYX,2JJY,2JJYP,2NJIT,2NJIX,2NJI,2NJIP,2NJIET,2NJIEX,2NJIE",
  "2NJIEP,2NJUOX,2NJUO,2NJOT,2NJOX,2NJO,2NJOP,2NJUX,2NJU,2NJUP,2NJURX,2NJUR,2NJYT,2NJYX,2NJY",
  "2NJYP,2NJYRX,2NJYR,2NYIT,2NYIX,2NYI,2NYIP,2NYIET,2NYIEX,2NYIE,2NYIEP,2NYUOX,2NYUO,2NYUOP",
  "2NYOT,2NYOX,2NYO,2NYOP,2NYUT,2NYUX,2NYU,2NYUP,2XIT,2XIX,2XI,2XIP,2XIET,2XIEX,2XIE,2XIEP,2XUOX",
  "2XUO,2XOT,2XOX,2XO,2XOP,2XYT,2XYX,2XY,2XYP,2XYRX,2XYR,2YIT,2YIX,2YI,2YIP,2YIET,2YIEX,2YIE",
  "2YIEP,2YUOT,2YUOX,2YUO,2YUOP,2YOT,2YOX,2YO,2YOP,2YUT,2YUX,2YU,2YUP,2YURX,2YUR,2YYT,2YYX,2YY",
  "2YYP,2YYRX,2YYR,a490=1RADICAL QOT,2LI,2KIT,2NYIP,2CYP,2SSI,2GGOP,2GEP,2MI,2HXIT,2LYR,2BBUT",
  "2MOP,2YO,2PUT,2HXUO,2TAT,2GA,2ZUP,2CYT,2DDUR,2BUR,2GGUO,2NYOP,2TU,2OP,2JJUT,2ZOT,2PYT,2HMO",
  "2YIT,2VUR,2SHY,2VEP,2ZA,2JO,2NZUP,2JJY,2GOT,2JJIE,2WO,2DU,2SHUR,2LIE,2CY,2CUOP,2CIP,2HXOP",
  "2SHAT,2ZUR,2SHOP,2CHE,2ZZIET,2NBIE,2KE,a4d0=0LISU aa BA,2PA,2nx,2DA,2TA,2mh,2GA,2KA,2lo,2JA",
  "2CA,2lg,2DZA,2zq,2zr,2MA,2NA,2LA,2SA,2ZHA,2ZA,2kp,2HA,2XA,2HHA,2FA,2WA,2kt,2YA,2qq,2A,2AE,2E",
  "2EU,2I,2O,2U,2UE,2UH,2OE,2fo MYA TI,3NA PO,3MYA CYA,4BO,4NA,4JEU,1cc et,2if gd,0VAI iu EE",
  "2EEN,2HEE,2WEE,2WEEN,2PEE,2BHEE,2BEE,2MBEE,2KPEE,2MGBEE,2GBEE,2FEE,2VEE,2TEE,2THEE,2DHEE",
  "2DHHEE,2LEE,2REE,2DEE,2NDEE,2SEE,2SHEE,2ZEE,2ZHEE,2CEE,2JEE,2NJEE,2YEE,2KEE,2NGGEE,2GEE,2MEE",
  "2NEE,2NYEE,2I,2IN,2HI,2HIN,2WI,2WIN,2PI,2BHI,2BI,2MBI,2KPI,2MGBI,2GBI,2FI,2VI,2TI,2THI,2DHI",
  "2DHHI,2LI,2RI,2DI,2NDI,2SI,2SHI,2ZI,2ZHI,2CI,2JI,2NJI,2YI,2KI,2NGGI,2GI,2MI,2NI,2NYI,2A,2AN",
  "2NGAN,2HA,2HAN,2WA,2WAN,2PA,2re,2BA,2MBA,2KPA,2KPAN,2MGBA,2GBA,2FA,2VA,2TA,2mh,2po,2DHHA,2LA",
  "2RA,2DA,2NDA,2SA,2kt,2ZA,2ZHA,2CA,2JA,2NJA,2YA,2KA,2KAN,2NGGA,2GA,2MA,2NA,2lj,2OO,2OON,2HOO",
  "2WOO,2WOON,2POO,2BHOO,2BOO,2MBOO,2KPOO,2MGBOO,2GBOO,2FOO,2VOO,2TOO,2THOO,2DHOO,2DHHOO,2LOO",
  "2ROO,2DOO,2NDOO,2SOO,2SHOO,2ZOO,2ZHOO,2COO,2JOO,2NJOO,2YOO,2KOO,2NGGOO,2GOO,2MOO,2NOO,2NYOO",
  "2U,2UN,2HU,2HUN,2WU,2WUN,2PU,2BHU,2BU,2MBU,2KPU,2MGBU,2GBU,2FU,2VU,2TU,2THU,2DHU,2DHHU,2LU",
  "2RU,2DU,2NDU,2SU,2SHU,2ZU,2ZHU,2CU,2JU,2NJU,2YU,2KU,2NGGU,2GU,2MU,2NU,2NYU,2O,2ON,2NGON,2HO",
  "2HON,2WO,2WON,2PO,2BHO,2BO,2MBO,2KPO,2MGBO,2GBO,2GBON,2FO,2VO,2TO,2THO,2DHO,2DHHO,2LO,2RO,2DO",
  "2NDO,2SO,2SHO,2ZO,2ZHO,2CO,2JO,2NJO,2YO,2KO,2NGGO,2GO,2MO,2NO,2NYO,2E,2EN,2NGEN,2HE,2HEN,2WE",
  "2WEN,2PE,2BHE,2BE,2MBE,2KPE,2KPEN,2MGBE,2GBE,2GBEN,2FE,2VE,2TE,2tr,2DHE,2DHHE,2LE,2RE,2DE",
  "2NDE,2SE,2vz,2ZE,2ZHE,2CE,2JE,2NJE,2YE,2KE,2NGGE,2NGGEN,2GE,2GEN,2ME,2NE,2NYE,2NG,2wy,1et",
  "1if gd,1fc bj,1iu NDOLE FA,3KA,3SOO,1au FEENG,2KEENG,2TING,2NII,2BANG,2FAA,2TAA,2DANG,2DOONG",
  "2KUNG,2TONG,2DO-O,2JONG,1cr ex,2cs,2co,2aw,2bt,2by,2fx,2bv,2br,2dm,1iu NDOLE MA,3DO",
  "a640=0jr ac aa ZEMLYA,1ad aa ZEMLYA,1ac aa DZELO,1ad aa DZELO,1ac aa bq DZE,1ad aa bq DZE",
  "1ac aa mg,1ad aa mg,1ac aa DJERV,1ad aa DJERV,1ac aa MONOGRAPH UK,1ad aa MONOGRAPH UK",
  "1ac aa BROAD hs,1ad aa BROAD hs,1ac aa hu YER,1ad aa hu YER,1ac aa YERU ab BACK YER",
  "1ad aa YERU ab BACK YER,1ac aa ir YAT,1ad aa ir YAT,1ac aa bq YU,1ad aa bq YU,1ac aa ir A",
  "1ad aa ir A,1ac aa gl ec zz,1ad aa gl ec zz,1ac aa BLENDED zz,1ad aa BLENDED zz",
  "1ac aa ir gl ec zz,1ad aa ir gl ec zz,1ac aa YN,1ad aa YN,1ac aa bq TSE,1ad aa bq TSE",
  "1ac aa SOFT DE,1ad aa SOFT DE,1ac aa SOFT EL,1ad aa SOFT EL,1ac aa SOFT EM,1ad aa SOFT EM",
  "1ac aa MONOCULAR O,1ad aa MONOCULAR O,1ac aa BINOCULAR O,1ad aa BINOCULAR O",
  "1ac aa al MONOCULAR O,1ad aa al MONOCULAR O,1aa MULTIOCULAR O,0dj jr VZMET,2jx rw ak",
  "2az rw ak,2ba rw ak,0SLAVONIC di,0dj jr aa UKRAINIAN IE,3I,3YI,3U,3HARD ak,3YERU,3SOFT ak,3hs",
  "2KAVYKA,2PAYEROK,0jr KAVYKA,1PAYEROK,1ac aa DWE,1ad aa DWE,1ac aa DZWE,1ad aa DZWE",
  "1ac aa ZHWE,1ad aa ZHWE,1ac aa CCHE,1ad aa CCHE,1ac aa DZZE,1ad aa DZZE,1ac aa TE ab bb bw",
  "1ad aa TE ab bb bw,1ac aa TWE,1ad aa TWE,1ac aa TSWE,1ad aa TSWE,1ac aa TSSE,1ad aa TSSE",
  "1ac aa TCHE,1ad aa TCHE,1ac aa HWE,1ad aa HWE,1ac aa SHWE,1ad aa SHWE,1ac aa al O,1ad aa al O",
  "1ac aa ln O,1ad aa ln O,0ev aa jr HARD ak,3SOFT ak,0dj jr aa EF,3ir E,0BAMUM aa A,2KA,2U,2KU",
  "2EE,2REE,2TAE,2O,2NYI,2I,2LA,2PA,2RII,2RIEE,2LEEEE,2MEEEE,2TAA,2NDAA,2NJAEM,2M,2SUU,2MU,2SHII",
  "2SI,2SHEUX,2SEUX,2KYEE,2KET,2NUAE,2NU,2NJUAE,2YOQ,2SHU,2YUQ,2YA,2NSHA,2KEUX,2PEUX,2NJEE,2NTEE",
  "2PUE,2WUE,2PEE,2FEE,2RU,2LU,2MI,2NI,2REUX,2RAE,2KEN,2NGKWAEN,2NGGA,2kp,2SHO,2PUAE,2FU,2FOM",
  "2WA,2NA,2LI,2PI,2LOQ,2KO,2MBEN,2REN,2MEN,2MA,2TI,2KI,2MO,2MBAA,2TET,2KPA,2jx,2NTUU,2SAMBA",
  "2FAAMAE,2KOVUU,2KOGHOM,1dj bj KOQNDON,3TUKWENTIS,1NJAEMLI,1if gd,1iw,1et,1jt,1fc bj",
  "a700=0ev aa CHINESE fo YIN PING,4YANG PING,4YIN SHANG,4YANG SHANG,4YIN QU,4YANG QU,4YIN RU",
  "4YANG RU,2wq fy fo ge,2fz fy fo ge,2MID fy fo ge,2is fy fo ge,2EXTRA-LOW fy fo ge",
  "2wq fy lb fo ge,2fz fy lb fo ge,2MID fy lb fo ge,2is fy lb fo ge,2EXTRA-LOW fy lb fo ge",
  "2wq lb fo ge,2fz lb fo ge,2MID lb fo ge,2is lb fo ge,2EXTRA-LOW lb fo ge,2cz an ge,3qk,3as ge",
  "2cu ai ha fr,2ig UP ae,3dg ae,3dw bj,3ca dw bj,2is ca dw bj,2STRESS bi fz fo,4is fo",
  "0ft ac aa rh ea,1ad aa rh ea,1ac aa rh wa,1ad aa rh wa,1ac aa HENG,1ad aa HENG,1ac aa TZ",
  "1ad aa TZ,1ac aa TRESILLO,1ad aa TRESILLO,1ac aa CUATRILLO,1ad aa CUATRILLO",
  "1ac aa CUATRILLO ab et,1ad aa CUATRILLO ab et,1aa ad ac F,4S,1ac aa AA,1ad aa AA,1ac aa AO",
  "1ad aa AO,1ac aa AU,1ad aa AU,1ac aa AV,1ad aa AV,1ac aa AV ab as ge,1ad aa AV ab as ge",
  "1ac aa AY,1ad aa AY,1ac aa bq C ab cz,1ad aa bq C ab cz,1ac aa K ab at,1ad aa K ab at",
  "1ac aa K ab dl at,1ad aa K ab dl at,1ac aa K ab at bi dl at,1ad aa K ab at bi dl at",
  "1ac aa BROKEN L,1ad aa BROKEN L,1ac aa L ab fz at,1ad aa L ab fz at,1ac aa O ab fk at ho",
  "1ad aa O ab fk at ho,1ac aa O ab uq,1ad aa O ab uq,1ac aa OO,1ad aa OO,1ac aa P ab at lc dc",
  "1ad aa P ab at lc dc,1ac aa P ab yj,1ad aa P ab yj,1ac aa P ab SQUIRREL hw",
  "1ad aa P ab SQUIRREL hw,1ac aa Q ab at lc dc,1ad aa Q ab at lc dc,1ac aa Q ab dl at",
  "1ad aa Q ab dl at,1ac aa R ROTUNDA,1ad aa R ROTUNDA,1ac aa RUM ROTUNDA,1ad aa RUM ROTUNDA",
  "1ac aa V ab dl at,1ad aa V ab dl at,1ac aa VY,1ad aa VY,1ac aa VISIGOTHIC Z",
  "1ad aa VISIGOTHIC Z,1ac aa THORN ab at,1ad aa THORN ab at,1ac aa THORN ab at lc dc",
  "1ad aa THORN ab at lc dc,1ac aa VEND,1ad aa VEND,1ac aa ET,1ad aa ET,1ac aa IS,1ad aa IS",
  "1ac aa CON,1ad aa CON,0ev aa US,0ft ad aa DUM,3LUM,3MUM,3NUM,3RUM,1aa ad ac RUM,1ad aa TUM",
  "3UM,1ac aa jd D,1ad aa jd D,1ac aa jd F,1ad aa jd F,1ac aa jd G,3ci jd G,1ad aa ci jd G",
  "1ac aa ci L,1ad aa ci L,1ac aa jd R,1ad aa jd R,1ac aa jd S,1ad aa jd S,1ac aa jd T",
  "1ad aa jd T,0ev aa is be fs,2iw,2fu gn ak,0ft ac aa SALTILLO,1ad aa SALTILLO,1ac aa ci H",
  "1ad aa L ab cx bw bi BELT,1aa SINOLOGICAL cz,1ac aa N ab dc,1ad aa N ab dc,1ac aa C ab ge",
  "1ad aa C ab ge,5gg bw,3H ab gg bw,1ac aa B ab yj,1ad aa B ab yj,1ac aa F ab at,1ad aa F ab at",
  "1ac aa zu AE,1ad aa zu AE,1ac aa zu OE,1ad aa zu OE,1ac aa zu UE,1ad aa zu UE",
  "1ac aa G ab kr at,1ad aa G ab kr at,1ac aa K ab kr at,1ad aa K ab kr at,1ac aa N ab kr at",
  "1ad aa N ab kr at,1ac aa R ab kr at,1ad aa R ab kr at,1ac aa S ab kr at,1ad aa S ab kr at",
  "1ac aa H ab bw,3bq fg E,3it G,3L ab BELT,3ad ac I,1aa ad ac Q,1ac aa ci K,4T,3J ab jb,3CHI",
  "3tn,1ad aa tn,1ac aa hs,1ad aa hs,1ac aa U ab at,1ad aa U ab at,1ac aa go A,1ad aa go A",
  "1ac aa go I,1ad aa go I,1ac aa go U,1ad aa go U,1ac aa oh POLISH O,1ad aa oh POLISH O",
  "1ac aa ANGLICANA W,1ad aa ANGLICANA W,1ac aa C ab gg bw,3S ab bw,3Z ab gg bw,3D ab fu at ho",
  "1ad aa D ab fu at ho,1ac aa S ab fu at ho,1ad aa S ab fu at ho,a7d0=1ac aa gl jd G",
  "1ad aa gl jd G,a7d3=3al THORN,a7d5=4WYNN,1ac aa bb SCOTS S,1ad aa bb SCOTS S,1ac aa SIGMOID S",
  "1ad aa SIGMOID S,a7f2=0ev aa ac C,3F,3Q,0ft ac aa bq dh H,1ad aa bq dh H,1EPIGRAPHIC aa ok I",
  "0ev aa ac H ab at,2ad el OE,0ft aa ad ac ci M,1EPIGRAPHIC aa bq F,4P,3ca M,3I LONGA,3iv M",
  "0SYLOTI NAGRI aa A,3I,2ak DVISVARA,2aa U,3E,3O,2ak HASANTA,2aa KO,3KHO,3GO,3GHO,2ak ct,2aa CO",
  "3CHO,3JO,3JHO,3TTO,3TTHO,3DDO,3DDHO,3TO,3THO,3DO,3DHO,3NO,3PO,3PHO,3BO,3BHO,3MO,3RO,3LO,3RRO",
  "3SO,3HO,2cm ak A,4I,4U,4E,4OO,2POETRY MARK-1,3MARK-2,3MARK-3,3MARK-4,2ak fp HASANTA",
  "a830=0gi INDIC hq cs fj,4dh,3aw ji,3cs rz,4hy,3aw xk,2fj bj,2PLACEHOLDER bj,2RUPEE bj",
  "2QUANTITY bj,a840=0PHAGS-PA aa KA,2lo,2GA,2kp,2CA,2lg,2JA,2lj,2TA,2mh,2DA,2NA,2PA,2nx,2BA,2MA",
  "2zq,2zr,2DZA,2WA,2ZHA,2ZA,2ad A,2YA,2RA,2LA,2kt,2SA,2HA,2A,2I,2U,2E,2O,2QA,2XA,2FA,2GGA,2EE",
  "1sa aa WA,3YA,1aa pf,2jv,2ph,2qz,2fp YA,2VOICELESS kt,2tg HA,2ASPIRATED FA,1sa aa RA",
  "1SUPERFIXED aa RA,1aa df,1de tp bj,1al tp bj,1bj xh,2al xh,a880=0SAURASHTRA ak ct,2ew,1aa A",
  "2AA,2I,2II,2U,2UU,2cw R,3RR,3L,3LL,2E,2EE,2AI,2O,2OO,2AU,2KA,2lo,2GA,2qq,2kp,2CA,2lg,2JA,2ul",
  "2lj,2pf,2jv,2ph,2ka,2qz,2TA,2mh,2DA,2po,2NA,2PA,2nx,2BA,2re,2MA,2YA,2RA,2LA,2VA,2kt,2ta,2SA",
  "2HA,2LLA,1fq ak HAARU,1cm ak AA,3I,3II,3U,3UU,3cw R,4RR,4L,4LL,3E,3EE,3AI,3O,3OO,3AU,1ak fm",
  "2df,a8ce=1jc,1al jc,1cr ex,2cs,2co,2aw,2bt,2by,2fx,2bv,2br,2dm,a8e0=0dj DEVANAGARI cr ex,3cs",
  "3co,3aw,3bt,3by,3fx,3bv,3br,3dm,2aa A,3U,3KA,3NA,3PA,3RA,3VI,2ak io,0DEVANAGARI ak SPACING df",
  "2df fm,2al df fm,2df co,3aw,3io,2PUSHPIKA,1GAP ue,1xw,1HEADSTROKE,1ak vs,1JAIN OM,1aa AY",
  "1cm ak AY,0KAYAH LI cr ex,3cs,3co,3aw,3bt,3by,3fx,3bv,3br,3dm,2aa KA,3lo,3GA,3kp,3SA,3kt,3ZA",
  "3lj,3TA,3HTA,3NA,3PA,3nx,3MA,3DA,3BA,3RA,3YA,3LA,3WA,3mh,3HA,3VA,3CA,3A,3OE,3I,3OO,2cm UE,3E",
  "3U,3EE,3O,2fo PLOPHU,3CALYA,4PLOPHU,2ak CWI,3SHYA,0REJANG aa KA,2GA,2kp,2TA,2DA,2NA,2PA,2BA",
  "2MA,2CA,2JA,2lj,2SA,2RA,2LA,2YA,2WA,2HA,2MBA,2NGGA,2NDA,2NYJA,2A,1cm ak I,3U,3E,3AI,3O,3AU",
  "3EU,3EA,1fq ak NG,3N,3R,3H,1fm,a95f=1hi bj,0ui CHOSEONG TIKEUT-MIEUM,2TIKEUT-PIEUP",
  "2TIKEUT-SIOS,2TIKEUT-CIEUC,2sv,2zi,2zj,2RIEUL-SSANGTIKEUT,2uy,2uz,2RIEUL-SSANGPIEUP,2vy,2xe",
  "2RIEUL-CIEUC,2RIEUL-KHIEUKH,2MIEUM-KIYEOK,2MIEUM-TIKEUT,2MIEUM-SIOS,2PIEUP-SIOS-THIEUTH",
  "2PIEUP-KHIEUKH,2PIEUP-HIEUH,2SSANGSIOS-PIEUP,2IEUNG-RIEUL,2IEUNG-HIEUH,2SSANGCIEUC-HIEUH",
  "2SSANGTHIEUTH,2PHIEUPH-HIEUH,2HIEUH-SIOS,2SSANGYEORINHIEUH,a980=0JAVANESE ak PANYANGGA,2CECAK",
  "2LAYAR,2WIGNYAN,1aa A,2I KAWI,3,2II,2U,2PA CEREK,2kp LELET,4RASWADI,2E,2AI,2O,2KA,3SASAK,3wf",
  "2GA,3wf,2kp,2CA,3wf,2JA,2lj wf,2JA nk,2lj,2pf,3nk,2ph,3nk,2NA wf,2TA,3wf,2DA,3nk,2NA,2PA,3wf",
  "2BA,3wf,2MA,2YA,2RA,3AGUNG,2LA,2WA,2SA wf,3nk,3,2HA,1ak CECAK TELU,1cm ak TARUNG,3TOLONG",
  "3WULU,4MELIK,3SUKU,4MENDUT,3TALING,3DIRGA MURE,3PEPET,1fq ak KERET,3PENGKAL,3CAKRA,1PANGKON",
  "1av RERENGGAN,1ai RERENGGAN,1PADA ANDAP,2MADYA,2LUHUR,2WINDU,2PANGKAT,2LINGSA,2LUNGSI,2ADEG",
  "3ADEG,2PISELEH,1ci PADA PISELEH,a9cf=1PANGRANGKEP,1cr ex,2cs,2co,2aw,2bt,2by,2fx,2bv,2br,2dm",
  "a9de=1PADA TIRTA TUMETES,2ISEN-ISEN,0MYANMAR aa SHAN qq,3lg,3ul,3qz,3re,1ak SHAN SAW",
  "1ev aa SHAN REDUPLICATION,1aa TAI LAING lj,4FA,4GA,4qq,4JA,4ul,4ph,4ka,4qz,1TAI LAING cr ex",
  "4cs,4co,4aw,4bt,4by,4fx,4bv,4br,4dm,1aa TAI LAING LLA,4DA,4po,4BA,4re,aa00=0CHAM aa A,2I,2U",
  "2E,2AI,2O,2KA,2lo,2GA,2qq,2NGUE,2kp,2lg,2CHHA,2JA,2ul,2NHUE,2NHA,2NHJA,2TA,2mh,2DA,2po,2NUE",
  "2NA,2ph,2PA,2PPA,2nx,2BA,2re,2MUE,2MA,2BBA,2YA,2RA,2LA,2VA,2ta,2SA,2HA,1cm ak AA,3I,3II,3EI",
  "3U,3OE,3O,3AI,3AU,3UE,1fq ak YA,3RA,3LA,3WA,aa40=1aa ar K,3G,3NG,1fq ak ar NG,1aa ar CH,3T,3N",
  "3P,3Y,3R,3L,3SS,1fq ak ar M,4H,aa50=1cr ex,2cs,2co,2aw,2bt,2by,2fx,2bv,2br,2dm",
  "aa5c=1cc SPIRAL,2jc,2al jc,2es jc,0MYANMAR aa KHAMTI GA,3CA,3lg,3JA,3ul,3lj,3pf,3jv,3ph,3ka",
  "3po,3NA,3SA,3HA,3HHA,3FA,1ev aa KHAMTI REDUPLICATION,1aa KHAMTI XA,3ZA,3RA,1yv KHAMTI OAY,3QN",
  "3HM,1au AITON dw,3cs,3co,1aa AITON RA,1ak PAO KAREN fo,2TAI LAING te,4tf,1aa SHWE PALAUNG lg",
  "4kt,0TAI VIET aa is KO,3fz KO,3is KHO,3fz KHO,3is KHHO,3fz KHHO,3is GO,3fz GO,3is NGO,3fz NGO",
  "3is CO,3fz CO,3is CHO,3fz CHO,3is SO,3fz SO,3is NYO,3fz NYO,3is DO,3fz DO,3is TO,3fz TO",
  "3is THO,3fz THO,3is NO,3fz NO,3is BO,3fz BO,3is PO,3fz PO,3is PHO,3fz PHO,3is FO,3fz FO",
  "3is MO,3fz MO,3is YO,3fz YO,3is RO,3fz RO,3is LO,3fz LO,3is VO,3fz VO,3is HO,3fz HO,3is O",
  "3fz O,2MAI KANG,2cm AA,3I,3UE,3U,3E,3O,2MAI KHIT,2cm IA,3UEA,3UA,3AUE,3AY,3AN,3AM,2fo MAI EK",
  "4NUENG,4THO,4SONG,aadb=2au KON,3NUENG,3SAM,3HO HOI,3KOI KOI,0MEETEI MAYEK aa E,3O,3lg,3lj,3pf",
  "3jv,3ph,3ka,3qz,3kt,3ta,2cm ak II,4UU,4AAI,4AU,4AAU,2CHEIKHAN,2AHANG KHUDAM,2ANJI",
  "2iu REPETITION bj,2zv REPETITION bj,2cm ak ew,2fm,ab01=0ETHIOPIC iu TTHU,2TTHI,2TTHAA,2TTHEE",
  "2TTHE,2TTHO,ab09=2DDHU,2DDHI,2DDHAA,2DDHEE,2DDHE,2DDHO,ab11=2DZU,2DZI,2DZAA,2DZEE,2DZE,2DZO",
  "ab20=2CCHHA,2CCHHU,2CCHHI,2CCHHAA,2CCHHEE,2CCHHE,2CCHHO,ab28=2BBA,2BBU,2BBI,2BBAA,2BBEE,2BBE",
  "2BBO,ab30=0ft ad aa se ik,3A REVERSED-SCHWA,3BLACKLETTER E,3se E,3E ab yj,3LENIS F",
  "3it G ab jb,3L ab ca LAZY S,5al bb cq,5bb ei,3M ab jb,3N ab jb,3ENG ab jb,3BLACKLETTER O",
  "5ab at,3fg O ab at,3ca OE,3ci OE ab at,6as at,4O OPEN-O,6ab at,3STIRRUP R",
  "1aa ad ac R ab ai LEG,1ad aa R WITHOUT HANDLE,3al R,3R ab jb,3al R ab jb,3it R,5ab ei",
  "3BASELINE ESH,3U ab fu ai LEG,4ge ab fu ai LEG,3UI,3ci UI,3U ab av bw,3CHI,4ab is ai ei",
  "6av SERIF,3X ab is ai ei,5fk av LEG,8bi is ai ei,8ab SERIF,3Y ab fu ai LEG,0ev ff ab ca ff",
  "1aa ad HENG,3L ab ca LAZY S,5bb cq,3U ab av bw,0ft ad aa SAKHA YAT,3ir E,3fg OE,3UO,3ca ik",
  "0kn aa ad ac hs,0ft ad aa DZ gm ab cx bw,3TS gm ab cx bw,3ci R ab bb cq,0ev aa ad ci W,2av lf",
  "2ai lf,ab70=0CHEROKEE ad aa A,3E,3I,3O,3U,3V,3GA,3KA,3GE,3GI,3GO,3GU,3GV,3HA,3HE,3HI,3HO,3HU",
  "3HV,3LA,3LE,3LI,3LO,3LU,3LV,3MA,3ME,3MI,3MO,3MU,3NA,3HNA,3NAH,3NE,3NI,3NO,3NU,3NV,3QUA,3QUE",
  "3QUI,3QUO,3QUU,3QUV,3SA,3S,3SE,3SI,3SO,3SU,3SV,3DA,3TA,3DE,3TE,3DI,3TI,3DO,3DU,3DV,3DLA,3TLA",
  "3TLE,3TLI,3TLO,3TLU,3TLV,3zq,3TSE,3TSI,3TSO,3TSU,3TSV,3WA,3WE,3WI,3WO,3WU,3WV,3YA",
  "0MEETEI MAYEK aa KOK,3SAM,3LAI,3MIT,3PA,3NA,3CHIL,3TIL,3KHOU,3NGOU,3THOU,3WAI,3YANG,3HUK,3UN",
  "3I,3PHAM,3ATIYA,3GOK,3JHAM,3RAI,3BA,3JIL,3DIL,3GHOU,3DHOU,3BHAM,3KOK wz,3LAI wz,3MIT wz",
  "3PA wz,3NA wz,3TIL wz,3NGOU wz,3I wz,2cm ak ONAP,4INAP,4ANAP,4YENAP,4SOUNAP,4UNAP,4CHEINAP",
  "4NUNG,2CHEIKHEI,2LUM IYEK,2APUN IYEK,abf0=2cr ex,3cs,3co,3aw,3bt,3by,3fx,3bv,3br,3dm",
  "d7b0=0ui JUNGSEONG O-YEO,2O-O-I,2YO-A,2YO-AE,2YO-EO,2U-YEO,2U-I-I,2YU-AE,2YU-O,2EU-A,2EU-EO",
  "2EU-E,2EU-O,2I-YA-O,2I-YAE,2I-YEO,2I-YE,2I-O-I,2I-YO,2I-YU,2I-I,2ARAEA-A,2ARAEA-E",
  "d7cb=1JONGSEONG NIEUN-RIEUL,2NIEUN-CHIEUCH,2vf,2SSANGTIKEUT-PIEUP,2TIKEUT-PIEUP,2TIKEUT-SIOS",
  "2TIKEUT-SIOS-KIYEOK,2TIKEUT-CIEUC,2TIKEUT-CHIEUCH,2TIKEUT-THIEUTH,2zi,2RIEUL-KIYEOK-HIEUH",
  "2SSANGRIEUL-KHIEUKH,2RIEUL-MIEUM-HIEUH,2RIEUL-PIEUP-TIKEUT,2RIEUL-PIEUP-PHIEUPH",
  "2RIEUL-YESIEUNG,2RIEUL-YEORINHIEUH-HIEUH,2KAPYEOUNRIEUL,2MIEUM-NIEUN,2MIEUM-SSANGNIEUN",
  "2SSANGMIEUM,2MIEUM-PIEUP-SIOS,2MIEUM-CIEUC,2zf,2PIEUP-RIEUL-PHIEUPH,2PIEUP-MIEUM,2xm,2rb",
  "2PIEUP-CIEUC,2PIEUP-CHIEUCH,2SIOS-MIEUM,2SIOS-KAPYEOUNPIEUP,2SSANGSIOS-KIYEOK",
  "2SSANGSIOS-TIKEUT,2SIOS-PANSIOS,2SIOS-CIEUC,2SIOS-CHIEUCH,2SIOS-THIEUTH,2SIOS-HIEUH",
  "2PANSIOS-PIEUP,2PANSIOS-KAPYEOUNPIEUP,2YESIEUNG-MIEUM,2YESIEUNG-HIEUH,2CIEUC-PIEUP",
  "2CIEUC-SSANGPIEUP,2xl,2PHIEUPH-SIOS,2PHIEUPH-THIEUTH,fb00=0ft ad el FF,3FI,3FL,3FFI,3FFL",
  "3fk S T,3ST,fb13=0xs ad el MEN NOW,4ECH,4INI,3VEW NOW,3MEN XEH,fb1d=0HEBREW aa YOD ab HIRIQ",
  "1tk JUDEO-SPANISH VARIKA,1el YIDDISH YOD YOD PATAH,1aa ALTERNATIVE AYIN,2WIDE ea,3DALET,3HE",
  "3yr,3LAMED,3ar MEM,3RESH,3TAV,2ALTERNATIVE cy ak,2mw ab mw cz,4SIN cz,4ix bi mw cz,6SIN cz",
  "2ea ab PATAH,4QAMATS,4MAPIQ,2BET ab ix,2pw ab ix,2DALET ab ix,2HE ab MAPIQ,2VAV ab ix",
  "2sd ab ix,fb38=2TET ab ix,2YOD ab ix,2ar yr ab ix,2yr ab ix,2LAMED ab ix,fb3e=2MEM ab ix",
  "fb40=2qr ab ix,2lz ab ix,fb43=2ar PE ab ix,2PE ab ix,fb46=2TSADI ab ix,2QOF ab ix,2RESH ab ix",
  "2mw ab ix,2TAV ab ix,2VAV ab HOLAM,2BET ab RAFE,2yr ab RAFE,2PE ab RAFE,1el ea LAMED",
  "0kk aa ea WASLA ag af,4ar af,2BEEH ag af,3ar af,3ap af,3cf af,2PEH ag af,3ar af,3ap af,3cf af",
  "2BEHEH ag af,3ar af,3ap af,3cf af,2TTEHEH ag af,3ar af,3ap af,3cf af,2TEHEH ag af,3ar af",
  "3ap af,3cf af,2TTEH ag af,3ar af,3ap af,3cf af,2VEH ag af,3ar af,3ap af,3cf af,2PEHEH ag af",
  "3ar af,3ap af,3cf af,2DYEH ag af,3ar af,3ap af,3cf af,2NYEH ag af,3ar af,3ap af,3cf af",
  "2TCHEH ag af,3ar af,3ap af,3cf af,2TCHEHEH ag af,3ar af,3ap af,3cf af,2DDAHAL ag af,3ar af",
  "2DAHAL ag af,3ar af,2DUL ag af,3ar af,2DDAL ag af,3ar af,2JEH ag af,3ar af,2RREH ag af,3ar af",
  "2KEHEH ag af,3ar af,3ap af,3cf af,2GAF ag af,3ar af,3ap af,3cf af,2GUEH ag af,3ar af,3ap af",
  "3cf af,2NGOEH ag af,3ar af,3ap af,3cf af,2ke GHUNNA ag af,4ar af,2RNOON ag af,3ar af,3ap af",
  "3cf af,2zy ab hl aj ag af,6ar af,3GOAL ag af,4ar af,4ap af,4cf af,3DOACHASHMEE ag af,4ar af",
  "4ap af,4cf af,2hl BARREE ag af,4ar af,4ab hz aj ag af,7ar af,1au cz aj,3aq,2co du aj,4aq",
  "2aw du aj,4aq,4cb ay aj,6aq,2bt du aj,4aq,2al an ge aq,2co du nq aj,5aq,2ei,2ad TAH aj,4aq",
  "2WASLA aj,fbd3=1aa NG ag af,3ar af,3ap af,3cf af,2U ag af,3ar af,2OE ag af,3ar af,2YU ag af",
  "3ar af,2U ab hz aj ag af,2VE ag af,3ar af,2KIRGHIZ OE ag af,4ar af,3YU ag af,4ar af,2E ag af",
  "3ar af,3ap af,3cf af,2UIGHUR KAZAKH KIRGHIZ ea ch ap af,7cf af,1el hl ab hz aj ab ea ag af",
  "8ar af,7AE ag af,8ar af,7ts ag af,8ar af,7U ag af,8ar af,7OE ag af,8ar af,7YU ag af,8ar af",
  "7E ag af,8ar af,8ap af,2UIGHUR KIRGHIZ hl ab hz aj ab ea ch ag af,9ea ch ar af,9ea ch ap af",
  "1aa FARSI hl ag af,4ar af,4ap af,4cf af,1el hl ab hz aj ab fi ag af,7iz ag af,7cv ag af",
  "7ea ch ag af,7hl ag af,2BEH ab fi ag af,4iz ag af,4ia ag af,4cv ag af,4ea ch ag af,4hl ag af",
  "2TEH ab fi ag af,4iz ag af,4ia ag af,4cv ag af,4ea ch ag af,4hl ag af,2THEH ab fi ag af",
  "4cv ag af,4ea ch ag af,4hl ag af,2fi ab iz ag af,4cv ag af,2iz ab fi ag af,4cv ag af",
  "2ia ab fi ag af,4iz ag af,4cv ag af,2oj ab fi ag af,4iz ag af,4ia ag af,4cv ag af",
  "2SAD ab iz ag af,4cv ag af,2DAD ab fi ag af,4iz ag af,4ia ag af,4cv ag af,2TAH ab iz ag af",
  "4cv ag af,2ZAH ab cv ag af,2wa ab fi ag af,4cv ag af,2ot ab fi ag af,4cv ag af",
  "2FEH ab fi ag af,4iz ag af,4ia ag af,4cv ag af,4ea ch ag af,4hl ag af,2QAF ab iz ag af",
  "4cv ag af,4ea ch ag af,4hl ag af,2yr ab ea ag af,4fi ag af,4iz ag af,4ia ag af,4tt ag af",
  "4cv ag af,4ea ch ag af,4hl ag af,2tt ab fi ag af,4iz ag af,4ia ag af,4cv ag af,4ea ch ag af",
  "4hl ag af,2cv ab fi ag af,4iz ag af,4ia ag af,4cv ag af,4ea ch ag af,4hl ag af",
  "2ke ab fi ag af,4iz ag af,4ia ag af,4cv ag af,4ea ch ag af,4hl ag af,2zy ab fi ag af",
  "4cv ag af,4ea ch ag af,4hl ag af,2hl ab fi ag af,4iz ag af,4ia ag af,4cv ag af,4ea ch ag af",
  "4hl ag af,2THAL ab hm ea ag af,2xq ab hm ea ag af,2ea ch ab hm ea ag af,2SHADDA ab yd ag af",
  "4ys ag af,4uc ag af,4yc ag af,4tj ag af,4hm ea ag af,2hl ab hz aj ab xq ar af,7zx ar af",
  "7cv ar af,7ke ar af,7ea ch ar af,7hl ar af,2BEH ab xq ar af,4zx ar af,4cv ar af,4ke ar af",
  "4ea ch ar af,4hl ar af,2TEH ab xq ar af,4zx ar af,4cv ar af,4ke ar af,4ea ch ar af,4hl ar af",
  "2THEH ab xq ar af,4zx ar af,4cv ar af,4ke ar af,4ea ch ar af,4hl ar af,2FEH ab ea ch ar af",
  "4hl ar af,2QAF ab ea ch ar af,4hl ar af,2yr ab ea ar af,4tt ar af,4cv ar af,4ea ch ar af",
  "4hl ar af,2tt ab cv ar af,4ea ch ar af,4hl ar af,2cv ab ea ar af,4cv ar af,2ke ab xq ar af",
  "4zx ar af,4cv ar af,4ke ar af,4ea ch ar af,4hl ar af,2ea ch ab hm ea ar af,2hl ab xq ar af",
  "4zx ar af,4cv ar af,4ke ar af,4ea ch ar af,4hl ar af,4hz aj ab fi ap af,7iz ap af,7ia ap af",
  "7cv ap af,7zy ap af,2BEH ab fi ap af,4iz ap af,4ia ap af,4cv ap af,4zy ap af,2TEH ab fi ap af",
  "4iz ap af,4ia ap af,4cv ap af,4zy ap af,2THEH ab cv ap af,2fi ab iz ap af,4cv ap af",
  "2iz ab fi ap af,4cv ap af,2ia ab fi ap af,4cv ap af,2oj ab fi ap af,4iz ap af,4ia ap af",
  "4cv ap af,2SAD ab iz ap af,4ia ap af,4cv ap af,2DAD ab fi ap af,4iz ap af,4ia ap af,4cv ap af",
  "2TAH ab iz ap af,2ZAH ab cv ap af,2wa ab fi ap af,4cv ap af,2ot ab fi ap af,4cv ap af",
  "2FEH ab fi ap af,4iz ap af,4ia ap af,4cv ap af,2QAF ab iz ap af,4cv ap af,2yr ab fi ap af",
  "4iz ap af,4ia ap af,4tt ap af,4cv ap af,2tt ab fi ap af,4iz ap af,4ia ap af,4cv ap af",
  "4zy ap af,2cv ab fi ap af,4iz ap af,4ia ap af,4cv ap af,2ke ab fi ap af,4iz ap af,4ia ap af",
  "4cv ap af,4zy ap af,2zy ab fi ap af,4cv ap af,4hm ea ap af,2hl ab fi ap af,4iz ap af",
  "4ia ap af,4cv ap af,4zy ap af,4hz aj ab cv cf af,7zy cf af,2BEH ab cv cf af,4zy cf af",
  "2TEH ab cv cf af,4zy cf af,2THEH ab cv cf af,4zy cf af,2oj ab cv cf af,4zy cf af",
  "2na ab cv cf af,4zy cf af,2yr ab tt cf af,4cv cf af,2tt ab cv cf af,2ke ab cv cf af,4zy cf af",
  "2hl ab cv cf af,4zy cf af,2SHADDA ab uc cf af,4yc cf af,4tj cf af,2TAH ab ea ch ag af",
  "4hl ag af,2wa ab ea ch ag af,4hl ag af,2ot ab ea ch ag af,4hl ag af,2oj ab ea ch ag af",
  "4hl ag af,2na ab ea ch ag af,4hl ag af,2iz ab ea ch ag af,4hl ag af,2fi ab ea ch ag af",
  "4hl ag af,2ia ab ea ch ag af,4hl ag af,2SAD ab ea ch ag af,4hl ag af,2DAD ab ea ch ag af",
  "4hl ag af,2na ab fi ag af,4iz ag af,4ia ag af,4cv ag af,4xq ag af,2oj ab xq ag af",
  "2SAD ab xq ag af,2DAD ab xq ag af,2TAH ab ea ch ar af,4hl ar af,2wa ab ea ch ar af,4hl ar af",
  "2ot ab ea ch ar af,4hl ar af,2oj ab ea ch ar af,4hl ar af,2na ab ea ch ar af,4hl ar af",
  "2iz ab ea ch ar af,4hl ar af,2fi ab ea ch ar af,4hl ar af,2ia ab ea ch ar af,4hl ar af",
  "2SAD ab ea ch ar af,4hl ar af,2DAD ab ea ch ar af,4hl ar af,2na ab fi ar af,4iz ar af",
  "4ia ar af,4cv ar af,4xq ar af,2oj ab xq ar af,2SAD ab xq ar af,2DAD ab xq ar af",
  "2na ab fi ap af,4iz ap af,4ia ap af,4cv ap af,2oj ab zy ap af,2na ab zy ap af",
  "2TAH ab cv ap af,2oj ab fi cf af,4iz cf af,4ia cf af,2na ab fi cf af,4iz cf af,4ia cf af",
  "2TAH ab cv cf af,2ZAH ab cv cf af,2ea ab ud ar af,5ag af,0ORNATE av cd,1ai cd",
  "0kk el RAHIMAHU ALLAAH,2RADI ALLAAHU ANH,4ANHAA,4ANHUM,4ANHUMAA,4ANHUNNA",
  "2SALLALLAAHU ALAYHI WA-AALIH,2ALAYHI AS-SALAAM,2ALAYHIM AS-SALAAM,2ALAYHIMAA AS-SALAAM",
  "2ALAYHI AS-SALAATU WAS-SALAAM,2QUDDISA SIRRAH,2SALLALLAHU ALAYHI WAAALIHEE WA-SALLAM",
  "2ALAYHAA AS-SALAAM,2TABAARAKA WA-TAAALAA,2RAHIMAHUM ALLAAH,2TEH ab fi ab cv ap af",
  "4iz ab fi ar af,7ap af,6cv ap af,4ia ab cv ap af,4cv ab fi ap af,6iz ap af,6ia ap af",
  "2fi ab cv ab iz ar af,7ap af,2iz ab cv ab hl ar af,6ea ch ar af,2oj ab iz ab fi ap af",
  "4fi ab iz ap af,6ea ch ar af,4cv ab iz ar af,7ap af,6fi ap af,6cv ar af,7ap af",
  "2SAD ab iz ab iz ar af,7ap af,4cv ab cv ar af,2na ab iz ab cv ar af,7ap af,4fi ab hl ar af",
  "4cv ab ia ar af,7ap af,6cv ar af,7ap af,2DAD ab iz ab ea ch ar af,4ia ab cv ar af,7ap af",
  "2TAH ab cv ab iz ar af,7ap af,6cv ap af,6hl ar af,2wa ab fi ab cv ar af,4cv ab cv ar af",
  "7ap af,6ea ch ar af,2ot ab cv ab cv ar af,6hl ar af,6ea ch ar af,2FEH ab ia ab cv ar af",
  "7ap af,2QAF ab cv ab iz ar af,6cv ar af,2tt ab iz ab cv ar af,6hl ar af,6ea ch ar af",
  "4fi ab fi ap af,7ar af,4ia ab cv ar af,7ap af,4cv ab iz ar af,7ap af,2cv ab iz ab fi ap af",
  "6cv ap af,6hl ar af,4fi ab iz ap af,6cv ap af,4ia ab fi ap af,6cv ap af,fd92=4fi ab ia ap af",
  "2zy ab cv ab fi ap af,6cv ap af,2ke ab iz ab cv ap af,6ea ch ar af,4fi ab cv ar af,7ap af",
  "6ea ch ar af,4cv ab hl ar af,6ea ch ar af,2hl ab cv ab cv ar af,7ap af,2BEH ab ia ab hl ar af",
  "2TEH ab fi ab hl ar af,6ea ch ar af,4ia ab hl ar af,6ea ch ar af,4cv ab hl ar af,6ea ch ar af",
  "2fi ab cv ab hl ar af,4iz ab ea ch ar af,4cv ab ea ch ar af,2oj ab ia ab ea ch ar af",
  "2SAD ab iz ab hl ar af,2na ab iz ab hl ar af,2DAD ab iz ab hl ar af,2tt ab fi ab hl ar af",
  "4cv ab hl ar af,2hl ab iz ab hl ar af,4fi ab hl ar af,4cv ab hl ar af,2cv ab cv ab hl ar af",
  "2QAF ab cv ab hl ar af,2ke ab iz ab hl ar af,2QAF ab cv ab iz ap af,2tt ab iz ab cv ap af",
  "2wa ab cv ab hl ar af,2yr ab cv ab hl ar af,2ke ab fi ab iz ap af,2cv ab ia ab hl ar af",
  "2tt ab fi ab cv ap af,2yr ab cv ab cv ar af,2tt ab fi ab cv ar af,2ke ab fi ab iz ar af",
  "2fi ab iz ab hl ar af,2iz ab fi ab hl ar af,2cv ab fi ab hl ar af,2FEH ab cv ab hl ar af",
  "2BEH ab iz ab hl ar af,2yr ab cv ab cv ap af,2wa ab fi ab cv ap af,2SAD ab cv ab cv ap af",
  "2oj ab ia ab hl ar af,2ke ab fi ab hl ar af,fdcf=2SALAAMUHU ALAYNAA",
  "fdf0=2SALLA USED AS KORANIC gd ak ag af,2QALA USED AS KORANIC gd ak ag af,2ALLAH ag af",
  "2AKBAR ag af,2MOHAMMAD ag af,2SALAM ag af,2RASOUL ag af,2ALAYHE ag af,2WASALLAM ag af",
  "2SALLA ag af,2SALLALLAHOU ALAYHE WASALLAM,2JALLAJALALOUHOU,0RIAL ak",
  "0kk el BISMILLAH AR-RAHMAN AR-RAHEEM,2SUBHAANAHU WA TAAALAA,2AZZA WA JALL",
  "fe10=0zg af to an et,4gt et,5if gd,4iw,4jt,4dw bj,4fc bj,4av bc lx bd,4ai bc lx BRAKCET",
  "4as ps,fe20=0dj el av dh,2ai dh,1al cq av dh,3ai dh,1dp av dh,2ai dh,1CONJOINING dp",
  "1el av dh aq,2ai dh aq,1cq av dh aq,2ai dh aq,1dp av dh aq,2ai dh aq,1CONJOINING dp aq",
  "1jr TITLO av dh,3ai dh,0zg af to an co cz LEADER,4EM jw,4EN jw,4is gv,4WAVY is gv,4av cd",
  "4ai cd,4av kc bd,4ai kc bd,4av ib ky bd,4ai ib ky bd,4av ax lx bd,4ai ax lx bd,4av al fr bd",
  "4ai al fr bd,4av fr bd,4ai fr bd,4av ha bd,4ai ha bd,4av bc ha bd,4ai bc ha bd,0SESAME cz",
  "0bc SESAME cz,0zg af to an av bn bd,4ai bn bd,0on qg,0CENTRELINE qg,0WAVY qg,0al WAVY qg",
  "0on is gv,0CENTRELINE is gv,0WAVY is gv,0ad et,1gt et,1if gd,fe54=1jt,1iw,1fc bj,1dw bj",
  "1EM jw,1av cd,1ai cd,1av kc bd,1ai kc bd,1av ib ky bd,1ai ib ky bd,1dq ak,1nd,1di,1cy ak,1sn",
  "1bu ak,1bh ak,1gn ak,fe68=1ie hj,1DOLLAR ak,1PERCENT ak,1sk AT,fe70=0kk ud ag af",
  "1TATWEEL ab ud aj,1yd ag af,1hw FRAGMENT,1ys ag af,fe76=1uc ag af,2cf af,1yc ag af,2cf af",
  "1tj ag af,2cf af,1SHADDA ag af,2cf af,1SUKUN ag af,2cf af,1aa hz ag af,2ea ab MADDA aj ag af",
  "6ar af,4hz aj ag af,6ar af,2ts ab hz aj ag af,6ar af,2ea ab hz aq ag af,6ar af",
  "2hl ab hz aj ag af,6ar af,6ap af,6cf af,2ea ag af,3ar af,2BEH ag af,3ar af,3ap af,3cf af",
  "2TEH MARBUTA ag af,4ar af,3ag af,3ar af,3ap af,3cf af,2THEH ag af,3ar af,3ap af,3cf af",
  "2fi ag af,3ar af,3ap af,3cf af,2iz ag af,3ar af,3ap af,3cf af,2ia ag af,3ar af,3ap af,3cf af",
  "2DAL ag af,3ar af,2THAL ag af,3ar af,2xq ag af,3ar af,2zx ag af,3ar af,2oj ag af,3ar af",
  "3ap af,3cf af,2na ag af,3ar af,3ap af,3cf af,2SAD ag af,3ar af,3ap af,3cf af,2DAD ag af",
  "3ar af,3ap af,3cf af,2TAH ag af,3ar af,3ap af,3cf af,2ZAH ag af,3ar af,3ap af,3cf af",
  "2wa ag af,3ar af,3ap af,3cf af,2ot ag af,3ar af,3ap af,3cf af,2FEH ag af,3ar af,3ap af,3cf af",
  "2QAF ag af,3ar af,3ap af,3cf af,2yr ag af,3ar af,3ap af,3cf af,2tt ag af,3ar af,3ap af,3cf af",
  "2cv ag af,3ar af,3ap af,3cf af,2ke ag af,3ar af,3ap af,3cf af,2zy ag af,3ar af,3ap af,3cf af",
  "2ts ag af,3ar af,2ea ch ag af,4ar af,2hl ag af,3ar af,3ap af,3cf af",
  "1el tt ab ea ab MADDA aj ag af,8ar af,6hz aj ag af,8ar af,7aq ag af,8ar af,5ag af,5ar af",
  "feff=0ex WIDTH NO-BREAK ll,ff01=0FULLWIDTH dw bj,1eg bj,1dq ak,1DOLLAR ak,1PERCENT ak,1nd,1ku",
  "1av cd,1ai cd,1di,1cy ak,1et,1sn,1if gd,1hj,1cr ex,2cs,2co,2aw,2bt,2by,2fx,2bv,2br,2dm,1iw",
  "1jt,1bu ak,1gn ak,1bh ak,1fc bj,1sk AT,1ft ac aa A,4B,4C,4D,4E,4F,4G,4H,4I,4J,4K,4L,4M,4N,4O",
  "4P,4Q,4R,4S,4T,4U,4V,4W,4X,4Y,4Z,1av bn bd,1ie hj,1ai bn bd,1be fs,1is gv,1ef fs,1ft ad aa A",
  "4B,4C,4D,4E,4F,4G,4H,4I,4J,4K,4L,4M,4N,4O,4P,4Q,4R,4S,4T,4U,4V,4W,4X,4Y,4Z,1av kc bd,1an gv",
  "1ai kc bd,1cq,1av bc cd,1ai bc cd,0HALFWIDTH gt if gd,1av ha bd,1ai ha bd,1gt et,1li bb cz",
  "2aa WO,3ad A,4I,4U,4E,4O,4YA,4YU,4YO,4TU,1ko PROLONGED ov bj,1li aa A,3I,3U,3E,3O,3KA,3KI,3KU",
  "3KE,3KO,3SA,3SI,3SU,3SE,3SO,3TA,3TI,3TU,3TE,3TO,3NA,3NI,3NU,3NE,3NO,3HA,3HI,3HU,3HE,3HO,3MA",
  "3MI,3MU,3ME,3MO,3YA,3YU,3YO,3RA,3RI,3RU,3RE,3RO,3WA,3N,2tg ov bj,2SEMI-VOICED ov bj,1ui ue",
  "2aa ww,3ve,3KIYEOK-SIOS,3NIEUN,3us,3ut,3xo,3vf,3RIEUL,3sv,3uy,3uz,3xe,3wj,3wi,3ux,3MIEUM",
  "3PIEUP,3xm,3xd,3SIOS,3SSANGSIOS,3IEUNG,3CIEUC,3xl,3sj,3sp,3td,3su,3HIEUH,ffc2=3A,3AE,3YA,3YAE",
  "3EO,3E,ffca=3YEO,3YE,3O,3WA,3WAE,3OE,ffd2=3YO,3U,3WEO,3WE,3WI,3YU,ffda=3EU,3YI,3I",
  "ffe0=0FULLWIDTH CENT ak,1POUND ak,1mt ak,1dp,1BROKEN ge,1YEN ak,1WON ak",
  "ffe8=0HALFWIDTH FORMS cl an,1am ae,1bp ae,1ah ae,1ay ae,1ax bn,1bc bo",
  "fff9=0INTERLINEAR ANNOTATION ANCHOR,2fh,2TERMINATOR,0OBJECT REPLACEMENT ma,0REPLACEMENT ma",
  "10000=0LINEAR B iu B008 A,3B038 E,3B028 I,3B061 O,3B010 U,3B001 DA,3B045 DE,3B007 DI,3B014 DO",
  "3B051 DU,3B057 JA,3B046 JE,1000d=3B036 JO,3B065 JU,3B077 KA,3B044 KE,3B067 KI,3B070 KO",
  "3B081 KU,3B080 MA,3B013 ME,3B073 MI,3B015 MO,3B023 MU,3B006 NA,3B024 NE,3B030 NI,3B052 NO",
  "3B055 NU,3B003 PA,3B072 PE,3B039 PI,3B011 PO,3B050 PU,3B016 QA,3B078 QE,3B021 QI,3B032 QO",
  "10028=3B060 RA,3B027 RE,3B053 RI,3B002 RO,3B026 RU,3B031 SA,3B009 SE,3B041 SI,3B012 SO",
  "3B058 SU,3B059 TA,3B004 TE,3B037 TI,3B005 TO,3B069 TU,3B054 WA,3B075 WE,3B040 WI,3B042 WO",
  "1003c=3B017 ZA,3B074 ZE,1003f=3B020 ZO,3B025 A2,3B043 A3,3B085 AU,3B071 DWE,3B090 DWO",
  "3B048 NWA,3B029 PU2,3B062 PTE,3B076 RA2,3B033 RA3,3B068 RO2,3B066 TA2,3B087 TWE,3B091 co",
  "10050=2au B018,3B019,3B022,3B034,3B047,3B049,3B056,3B063,3B064,3B079,3B082,3B083,3B086,3B089",
  "10080=2yo B100 MAN,3B102 WOMAN,3B104 DEER,3B105 EQUID,3B105F MARE,3B105M STALLION,3B106F EWE",
  "3B106M RAM,3B107F SHE-GOAT,3B107M HE-GOAT,3B108F SOW,3B108M BOAR,3B109F COW,3B109M BULL",
  "3B120 WHEAT,3B121 BARLEY,3B122 OLIVE,3B123 SPICE,3B125 CYPERUS,2ur B127 KAPO,3B128 KANAKO",
  "2yo B130 OIL,3B131 WINE,3B132,2ur B133 AREPA,3B135 MERI,2yo B140 BRONZE,3B141 GOLD,3B142",
  "3B145 WOOL,3B146,3B150,3B151 le,3B152,3B153,3B154,2ur B156 TURO2,2yo B157,3B158,3B159 CLOTH",
  "3B160,3B161,3B162 GARMENT,3B163 ARMOUR,3B164,3B165,3B166,3B167,3B168,3B169,3B170,3B171,3B172",
  "3B173 MONTH,3B174,3B176 TREE,3B177,3B178,3B179,3B180,3B181,3B182,3B183,3B184,3B185,3B189",
  "3B190,3B191 HELMET,3B220 FOOTSTOOL,3B225 BATHTUB,3B230 SPEAR,3B231 ae,3B232,3B233 SWORD,3B234",
  "3B236,3B240 WHEELED CHARIOT,3B241 CHARIOT,3B242 CHARIOT FRAME,3B243 WHEEL,3B245,3B246",
  "2ur B247 DIPTE,2yo B248,3B249,3B251,3B252,3B253,3B254 DART,3B255,3B256,3B257,3B258,3B259",
  "3VESSEL B155,4B200,4B201,4B202,4B203,4B204,4B205,4B206,4B207,4B208,4B209,4B210,4B211,4B212",
  "4B213,4B214,4B215,4B216,4B217,4B218,4B219,4B221,4B222,4B226,4B227,4B228,4B229,4B250,4B305",
  "10100=0AEGEAN zv fh gv,3cz,1tz bj,10107=1dq cs,2co,2aw,2bt,2by,2fx,2bv,2br,2dm,2jx,2fl,2jk",
  "2od,2im,2ou,2fe,2mm,2ga,2cs az,2co az,2aw az,2bt az,2by az,2fx az,2bv az,2br az,2dm az,2cs ba",
  "2co ba,2aw ba,2bt ba,2by ba,2fx ba,2bv ba,2br ba,2dm ba,2jx ba,2fl ba,2jk ba,2od ba,2im ba",
  "2ou ba,2fe ba,2mm ba,2ga ba,10137=1WEIGHT BASE UNIT,2FIRST tc,2SECOND tc,2tl tc,2FOURTH tc",
  "1DRY yw FIRST tc,1LIQUID yw FIRST tc,1yw SECOND tc,2tl tc,0kn ACROPHONIC ATTIC cs fj,4dh",
  "4DRACHMA,3by,3im,3by az,4ba,3im ba,3by vv,3jx vv,3im vv,3cs az vv,3by az vv,3cs ba vv",
  "3by ba vv,4tb,3jx tb,3im tb,3cs az tb,3by az tb,3cs ba tb,3jx ba tb,3im ba tb,3jx MNAS",
  "2HERAEUM cs PLETHRON,2vg cs,2HERMIONIAN cs,2EPIDAUREAN co,2vg co,2CYRENAIC co DRACHMAS",
  "2EPIDAUREAN co DRACHMAS,2TROEZENIAN by,3jx,4fp af,2HERMIONIAN jx,2MESSENIAN jx,2vg jx,3jk",
  "2TROEZENIAN im,4fp af,2HERMIONIAN im,2vg im,3cs az,3aw az,2EPIDAUREAN by az,2TROEZENIAN by az",
  "2vg by az,2CARYSTIAN by az,2NAXIAN by az,2vg cs ba,3by ba,2DELPHIC by MNAS,2STRATIAN im MNAS",
  "1cs dh ak,4fp af,1co vh ak,1aw ji ak,1YEAR ak,1TALENT ak,1DRACHMA ak,1OBOL ak,1co OBOLS ak",
  "1aw OBOLS ak,1bt OBOLS ak,1by OBOLS ak,1METRETES ak,1KYATHOS BASE ak,1LITRA ak,1OUNKIA ak",
  "1XESTES ak,1ARTABE ak,1AROURA ak,1GRAMMA ak,1TRYBLION BASE ak,1ex ak,1cs fj ak,1SINUSOID ak",
  "1INDICTION ak,0NOMISMA ak,10190=0ROMAN SEXTANS ak,1UNCIA ak,1SEMUNCIA ak,1SEXTULA ak",
  "1DIMIDIA SEXTULA ak,1SILIQUA ak,1DENARIUS ak,1QUINARIUS ak,1SESTERTIUS ak,1DUPONDIUS ak",
  "1AS ak,1CENTURIAL ak,0ASCIA au,101a0=0kn au TAU RHO,101d0=0PHAISTOS DISC ak PEDESTRIAN",
  "3PLUMED tp,3TATTOOED tp,3CAPTIVE,3CHILD,3WOMAN,3HELMET,3GAUNTLET,3TIARA,3ae,3BOW,3SHIELD",
  "3CLUB,3MANACLES,3MATTOCK,3SAW,3LID,3BOOMERANG,3CARPENTRY PLANE,3DOLIUM,3COMB,3SLING,3COLUMN",
  "3BEEHIVE,3SHIP,3le,3HIDE,3BULLS LEG,3CAT,3RAM,3EAGLE,3DOVE,3TUNNY,3BEE,3PLANE TREE,3VINE",
  "3PAPYRUS,3ROSETTE,3LILY,3OX BACK,3FLUTE,3GRATER,3STRAINER,3ad AXE,3WAVY BAND,3dj kr at",
  "10280=0LYCIAN aa A,2E,2B,2BH,2G,2D,2I,2W,2Z,2TH,2J,2K,2Q,2L,2M,2N,2MM,2NN,2U,2P,2KK,2R,2S,2T",
  "2TT,2AN,2EN,2H,2X,102a0=0CARIAN aa A,2P2,2D,2L,2UUU,2R,2LD,2A2,2Q,2B,2M,2O,2D2,2T,2SH,2SH2,2S",
  "2C-18,2U,2NN,2X,2N,2TT2,2P,2SS,2I,2E,2UUUU,2K,2K2,2ND,2UU,2G,2G2,2ST,2ST2,2NG,2II,2C-39,2TT",
  "2UUU2,2RR,2MB,2MB2,2MB3,2MB4,2LD2,2E2,2UUU3,102e0=0ij EPACT nn bj,2cr cs,3co,3aw,3bt,3by,3fx",
  "3bv,3br,3dm,2dq jx,3fl,3jk,3od,3im,3ou,3fe,3mm,3ga,3cs az,3co az,3aw az,3bt az,3by az,3fx az",
  "3bv az,3br az,3dm az,10300=0oh ri aa A,3BE,3KE,3DE,3E,3VE,3ZE,3HE,3tr,3I,3KA,3EL,3EM,3EN,3ESH",
  "3O,3PE,3vz,3KU,3ER,3ES,3TE,3U,3EKS,3PHE,3KHE,3EF,3ERS,3CHE,3II,3UU,3ESS,2pb cs,3by,3jx,3im",
  "1032d=2aa YE,3NORTHERN TSE,3SOUTHERN TSE,0GOTHIC aa AHSA,2BAIRKAN,2GIBA,2DAGS,2AIHVUS",
  "2QAIRTHRA,2IUJA,2HAGL,2THIUTH,2EIS,2KUSMA,2LAGUS,2MANNA,2NAUTHS,2JER,2URUS,2PAIRTHRA,2ga",
  "2RAIDA,2SAUIL,2TEIWS,2WINJA,2FAIHU,2IGGWS,2HWAIR,2OTHAL,2dm az,10350=0oh PERMIC aa AN,3BUR",
  "3GAI,3DOI,3E,3ZHOI,3DZHOI,3ZATA,3DZITA,3I,3KOKE,3LEI,3MENOE,3NENOE,3VOOI,3PEEI,3REI,3SII,3TAI",
  "3U,3CHERY,3SHOOI,3SHCHOOI,3YRY,3YERU,3O,3OO,3EF,3HA,3TSIU,3VER,3YER,3YERI,3YAT,3IE,3YU,3YA",
  "3IA,0dj oh PERMIC aa AN,4DOI,4ZATA,4NENOE,4SII,10380=0UGARITIC aa ALPA,2tn,2GAMLA,2lo,2mk,2HO",
  "2WO,2ZETA,2HOTA,2TET,2YOD,2yr,2mw,2rv,2MEM,2DHAL,2qr,2ZU,2SAMKA,2wa,2PU,2SADE,2QOPA,2RASHA",
  "2THANNA,2ot,2TO,2I,2U,2SSU,1039f=1zv yf,0oh PERSIAN ak A,3I,3U,3KA,3KU,3GA,3GU,3XA,3CA,3JA",
  "3JI,3TA,3TU,3DA,3DI,3DU,3mh,3PA,3BA,3FA,3NA,3NU,3MA,3MI,3MU,3YA,3VA,3VI,3RA,3RU,3LA,3SA,3ZA",
  "3kt,3ta,3HA,103c8=3AURAMAZDAA,3AURAMAZDAA-2,3AURAMAZDAAHA,3XSHAAYATHIYA,3DAHYAAUSH",
  "3DAHYAAUSH-2,3BAGA,3BUUMISH,2zv yf,2dq cs,3co,3jx,3fl,3az,10400=0DESERET ac aa fk I,4E,4A,4AH",
  "4O,4OO,3fu I,4E,4A,4AH,4O,4OO,3AY,3OW,3WU,3YEE,3H,3PEE,3BEE,3TEE,3DEE,3CHEE,3JEE,3KAY,3GAY",
  "3EF,3VEE,3ETH,3THEE,3ES,3ZEE,3ESH,3ZHEE,3ER,3EL,3EM,3EN,3ENG,3OI,3EW,1ad aa fk I,4E,4A,4AH,4O",
  "4OO,3fu I,4E,4A,4AH,4O,4OO,3AY,3OW,3WU,3YEE,3H,3PEE,3BEE,3TEE,3DEE,3CHEE,3JEE,3KAY,3GAY,3EF",
  "3VEE,3ETH,3THEE,3ES,3ZEE,3ESH,3ZHEE,3ER,3EL,3EM,3EN,3ENG,3OI,3EW,0SHAVIAN aa PEEP,2TOT,2KICK",
  "2FEE,2THIGH,2SO,2SURE,2CHURCH,2YEA,2HUNG,2BIB,2DEAD,2GAG,2VOW,2THEY,2ZOO,2yw,2JUDGE,2WOE",
  "2HA-HA,2LOLL,2MIME,2IF,2EGG,2qt,2ADO,2ON,2WOOL,2OUT,2AH,2ROAR,2qr,2EAT,2AGE,2ICE,2UP,2OAK",
  "2OOZE,2OIL,2AWE,2ARE,2OR,2AIR,2ERR,2ARRAY,2EAR,2IAN,2YEW,0OSMANYA aa ea,2BA,2TA,2JA,2XA,2lo",
  "2DEEL,2RA,2SA,2SHIIN,2po,2CAYN,2GA,2FA,2QAAF,2KAAF,2LAAN,2MIIN,2NUUN,2ts,2HA,2YA,2A,2E,2I,2O",
  "2U,2AA,2EE,2OO,104a0=1cr ex,2cs,2co,2aw,2bt,2by,2fx,2bv,2br,2dm,104b0=0OSAGE ac aa A,3AI,3wa",
  "3AH,3BRA,3lg,3EHCHA,3E,3EIN,3HA,3HYA,3I,3KA,3EHKA,3KYA,3LA,3MA,3NA,3O,3OIN,3PA,3EHPA,3SA,3kt",
  "3TA,3EHTA,3zq,3EHTSA,3zr,3po,3U,3WA,3lo,3qq,3ZA,3ZHA,104d8=1ad aa A,3AI,3wa,3AH,3BRA,3lg",
  "3EHCHA,3E,3EIN,3HA,3HYA,3I,3KA,3EHKA,3KYA,3LA,3MA,3NA,3O,3OIN,3PA,3EHPA,3SA,3kt,3TA,3EHTA,3zq",
  "3EHTSA,3zr,3po,3U,3WA,3lo,3qq,3ZA,3ZHA,10500=0ELBASAN aa A,2BE,2CE,2CHE,2DE,2NDE,2DHE,2EI,2E",
  "2FE,2GE,2GJE,2HE,2I,2JE,2KE,2LE,2LLE,2ME,2NE,2NA,2NJE,2O,2PE,2QE,2RE,2RRE,2SE,2vz,2TE,2tr,2U",
  "2VE,2XE,2Y,2ZE,2ZHE,2GHE,2GHAMMA,2KHE,10530=0CAUCASIAN ALBANIAN aa ALT,3BET,3GIM,3DAT,3EB",
  "3ZARL,3EYN,3ZHIL,3TAS,3lg,3YOWD,3ZHA,3IRB,3kt,3LAN,3INYA,3XEYN,3DYAN,3CAR,3JHOX,3KAR,3LYIT",
  "3HEYT,3QAY,3AOR,3CHOY,3CHI,3CYAY,3MAQ,3QAR,3NOWC,3DZYAY,3SHAK,3JAYN,3ON,3TYAY,3FAM,3DZAY",
  "3CHAT,3PEN,3GHEYS,3RAT,3SEYK,3VEYZ,3TIWR,3SHOY,3IWN,3CYAW,3CAYN,3YAYD,3PIWR,3KIW",
  "1056f=2CITATION bj,0VITHKUQI ac aa A,3BBE,3BE,3CE,3CHE,3DE,3DHE,3EI,3E,3FE,3GA,1057c=3HA,3HHA",
  "3I,3IJE,3JE,3KA,3LA,3LLA,3ME,3NE,3NJE,3O,3PE,3QA,3RE,1058c=3SE,3vz,3TE,3tr,3U,3VE,3XE",
  "10594=3Y,3ZE,10597=1ad aa A,3BBE,3BE,3CE,3CHE,3DE,3DHE,3EI,3E,3FE,3GA,105a3=3HA,3HHA,3I,3IJE",
  "3JE,3KA,3LA,3LLA,3ME,3NE,3NJE,3O,3PE,3QA,3RE,105b3=3SE,3vz,3TE,3tr,3U,3VE,3XE,105bb=3Y,3ZE",
  "10600=0LINEAR A ak AB001,3AB002,3AB003,3AB004,3AB005,3AB006,3AB007,3AB008,3AB009,3AB010",
  "3AB011,3AB013,3AB016,3AB017,3AB020,3AB021,3AB021F,3AB021M,3AB022,3AB022F,3AB022M,3AB023",
  "3AB023M,3AB024,3AB026,3AB027,3AB028,3A028B,3AB029,3AB030,3AB031,3AB034,3AB037,3AB038,3AB039",
  "3AB040,3AB041,3AB044,3AB045,3AB046,3AB047,3AB048,3AB049,3AB050,3AB051,3AB053,3AB054,3AB055",
  "3AB056,3AB057,3AB058,3AB059,3AB060,3AB061,3AB065,3AB066,3AB067,3AB069,3AB070,3AB073,3AB074",
  "3AB076,3AB077,3AB078,3AB079,3AB080,3AB081,3AB082,3AB085,3AB086,3AB087,3A100-102,3AB118,3AB120",
  "3A120B,3AB122,3AB123,3AB131A,3AB131B,3A131C,3AB164,3AB171,3AB180,3AB188,3AB191,3A301,3A302",
  "3A303,3A304,3A305,3A306,3A307,3A308,3A309A,3A309B,3A309C,3A310,3A311,3A312,3A313A,3A313B",
  "3A313C,3A314,3A315,3A316,3A317,3A318,3A319,3A320,3A321,3A322,3A323,3A324,3A325,3A326,3A327",
  "3A328,3A329,3A330,3A331,3A332,3A333,3A334,3A335,3A336,3A337,3A338,3A339,3A340,3A341,3A342",
  "3A343,3A344,3A345,3A346,3A347,3A348,3A349,3A350,3A351,3A352,3A353,3A354,3A355,3A356,3A357",
  "3A358,3A359,3A360,3A361,3A362,3A363,3A364,3A365,3A366,3A367,3A368,3A369,3A370,3A371,3A400-VAS",
  "3A401-VAS,3A402-VAS,3A403-VAS,3A404-VAS,3A405-VAS,3A406-VAS,3A407-VAS,3A408-VAS,3A409-VAS",
  "3A410-VAS,3A411-VAS,3A412-VAS,3A413-VAS,3A414-VAS,3A415-VAS,3A416-VAS,3A417-VAS,3A418-VAS",
  "3A501,3A502,3A503,3A504,3A505,3A506,3A508,3A509,3A510,3A511,3A512,3A513,3A515,3A516,3A520",
  "3A521,3A523,3A524,3A525,3A526,3A527,3A528,3A529,3A530,3A531,3A532,3A534,3A535,3A536,3A537",
  "3A538,3A539,3A540,3A541,3A542,3A545,3A547,3A548,3A549,3A550,3A551,3A552,3A553,3A554,3A555",
  "3A556,3A557,3A559,3A563,3A564,3A565,3A566,3A568,3A569,3A570,3A571,3A572,3A573,3A574,3A575",
  "3A576,3A577,3A578,3A579,3A580,3A581,3A582,3A583,3A584,3A585,3A586,3A587,3A588,3A589,3A591",
  "3A592,3A594,3A595,3A596,3A598,3A600,3A601,3A602,3A603,3A604,3A606,3A608,3A609,3A610,3A611",
  "3A612,3A613,3A614,3A615,3A616,3A617,3A618,3A619,3A620,3A621,3A622,3A623,3A624,3A626,3A627",
  "3A628,3A629,3A634,3A637,3A638,3A640,3A642,3A643,3A644,3A645,3A646,3A648,3A649,3A651,3A652",
  "3A653,3A654,3A655,3A656,3A657,3A658,3A659,3A660,3A661,3A662,3A663,3A664,10740=3A701 A,3A702 B",
  "3A703 D,3A704 E,3A705 F,3A706 H,3A707 J,3A708 K,3A709 L,3A709-2 L2,3A709-3 L3,3A709-4 L4",
  "3A709-6 L6,3A710 W,3A711 X,3A712 Y,3A713 hs,3A714 ABB,3A715 BB,3A717 DD,3A726 EYYY,3A732 JE",
  "10760=3A800,3A801,3A802,3A803,3A804,3A805,3A806,3A807,10780=0ev aa ad ac AA,2hm ez iw",
  "3dh ez iw,2ad AE,3ac B,3B ab bw,10787=3DZ gm,5ab cx bw,6rf,3DEZH gm,3D ab hw,5bw,6bi hw,3bq E",
  "3gl bq fg E,3FENG gm,3RAMS le,3ac G,3G ab bw,3ac G ab bw,3H ab at,3ac H,3HENG ab bw",
  "3la J ab at bi bw,3LS gm,3LZ gm,3L ab BELT,3ac L ab BELT,3L ab cx bw bi BELT,3LEZH,4ab cx bw",
  "3ci Y,5ab BELT,3O ab at,3ac OE,3gl hs,3Q,3ci R ab fk LEG,8bi cx bw,3R ab hw,5rt,3ac R",
  "3TC gm ab rf,3TS gm,5ab cx bw,3TESH gm,3T ab cx bw,3V ab ai bw,107b2=3ac Y,2go gd ab at",
  "2bq go gd ab at,2BILABIAL wb,2DENTAL wb,2LATERAL wb,2ALVEOLAR wb,2cx wb ab cx bw,2ad S ab rf",
  "10800=0CYPRIOT iu A,2E,2I,2O,2U,2JA,10808=2JO,1080a=2KA,2KE,2KI,2KO,2KU,2LA,2LE,2LI,2LO,2LU",
  "2MA,2ME,2MI,2MO,2MU,2NA,2NE,2NI,2NO,2NU,2PA,2PE,2PI,2PO,2PU,2RA,2RE,2RI,2RO,2RU,2SA,2SE,2SI",
  "2SO,2SU,2TA,2TE,2TI,2TO,2TU,2WA,2WE,2WI,2WO,10837=2XA,2XE,1083c=2ZA,1083f=2ZO",
  "0IMPERIAL ARAMAIC aa os,3vw,3pw,3sl,3HE,3ts,3sd,3ym,3TETH,3zw,3wu,3mo,3MEM,3qr,3lz,3AYIN,3PE",
  "3rc,3QOPH,3RESH,3mw,3TAW,10857=2hi ak,2dq cs,3co,3aw,3jx,3fl,3cs az,4ba,3jx ba",
  "0PALMYRENE aa os,2vw,2pw,2sl,2HE,2ts,2sd,2ym,2TETH,2zw,2wu,2mo,2MEM,2ar qr,2qr,2lz,2AYIN,2PE",
  "2rc,2QOPH,2RESH,2mw,2TAW,1eb FLEURON,1da FLEURON,1dq cs,2co,2aw,2bt,2by,2jx,2fl",
  "0NABATAEAN aa ar os,2os,2ar vw,2vw,2pw,2sl,2ar HE,2HE,2ts,2sd,2ym,2TETH,2ar zw,2zw,2ar wu,2wu",
  "2ar mo,2mo,2ar MEM,2MEM,2ar qr,2qr,2lz,2AYIN,2PE,2rc,2QOPH,2RESH,2ar mw,2mw,2TAW,108a7=1dq cs",
  "2co,2aw,2bt,1CRUCIFORM dq bt,1dq by,2jx,2fl,2cs az,108e0=0HATRAN aa os,2vw,2pw,2DALETH-RESH",
  "2HE,2ts,2ZAYN,2ym,2TETH,2zw,2wu,2mo,2MEM,2qr,2lz,2AYN,2PE,2rc,2QOPH,108f4=2mw,2TAW",
  "108fb=1dq cs,2by,2jx,2fl,2cs az,0PHOENICIAN aa ALF,2BET,2GAML,2DELT,2HE,2WAU,2ZAI,2HET,2TET",
  "2YOD,2yr,2LAMD,2MEM,2qr,2SEMK,2wa,2PE,2SADE,2QOF,2ROSH,2mw,2TAU,1dq cs,2jx,2fl,2cs az,2co,2aw",
  "1091f=1zv fh,0LYDIAN aa A,2B,2G,2D,2E,2V,2I,2Y,2K,2L,2M,2N,2O,2R,2SS,2T,2U,2F,2Q,2S,2TT,2AN",
  "2EN,2LY,2NN,2C,1093f=1ez bj,10980=0MEROITIC HIEROGLYPHIC aa A,3E,3I,3O,3YA,3WA,3BA,3BA-2,3PA",
  "3MA,3NA,3NA-2,3NE,3NE-2,3RA,3RA-2,3LA,3lo,3HHA,3SA,3SA-2,3SE,3KA,3QA,3TA,3TA-2,3TE,3TE-2,3TO",
  "3DA,2au VIDJ,3VIDJ-2,1CURSIVE aa A,3E,3I,3O,3YA,3WA,3BA,3PA,3MA,3NA,3NE,3RA,3LA,3lo,3HHA,3SA",
  "3iv SA,3SE,3KA,3QA,3TA,3TE,3TO,3DA,109bc=2hq pr my,3cs dh,2yv RMT,3IMN,2dq cs,3co,3aw,3bt,3by",
  "3fx,3bv,3br,3dm,3jx,3fl,3jk,3od,3im,3ou,3fe,109d2=3cs az,3co az,3aw az,3bt az,3by az,3fx az",
  "3bv az,3br az,3dm az,3cs ba,3co ba,3aw ba,3bt ba,3by ba,3fx ba,3bv ba,3br ba,3dm ba,3jx ba",
  "3fl ba,3jk ba,3od ba,3im ba,3ou ba,3fe ba,3mm ba,3ga ba,3cs az ba,3co az ba,3aw az ba",
  "3bt az ba,3by az ba,3fx az ba,3bv az ba,3br az ba,3dm az ba,2hq cs TWELFTH,3co my,3aw my",
  "3bt my,3by my,3fx my,3bv my,3br my,3dm my,3jx my,0KHAROSHTHI aa A,1cm ak I,3U,3cw R,10a05=3E",
  "3O,10a0c=2mp bj,1ak al ei aq,2ct,2ew,1aa KA,2lo,2GA,2qq,10a15=2CA,2lg,2JA,10a19=2lj,2pf,2jv",
  "2ph,2ka,2qz,2TA,2mh,2DA,2po,2NA,2PA,2nx,2BA,2re,2MA,2YA,2RA,2LA,2VA,2kt,2ta,2SA,2ZA,2HA,2KKA",
  "2TTTHA,2TTTA,2VHA,10a38=1ak ge aj,2CAUDA,2cz aq,10a3f=1fm,1cr cs,2co,2aw,2bt,1dq jx,2fl",
  "2cs az,3ba,1hq cs dh,10a50=1cc cz,2ad bo,2bo,2ua ge,2MANGALAM,2LOTUS,2jc,2al jc,2LINES",
  "10a60=0oh gy ARABIAN aa HE,4mo,4ym,4MEM,4QOPH,4ts,4mw,4RESH,4vw,4TAW,4SAT,4wu,4qr,4KHETH,4rc",
  "4lz,4FE,4ea,4AYN,4DHADHE,4pw,4sl,4GHAYN,4TETH,4ZAYN,4DHALETH,4zw,4THAW,4THETH,3dq cs,4im",
  "3NUMERIC nj,1gi ARABIAN aa zy,4tt,4iz,4cv,4QAF,4ts,4ES-2,4xq,4BEH,4TEH,4ES-1,4yr,4ke,4ia,4SAD",
  "4ES-3,4FEH,4ea,4wa,4DAD,4GEEM,4DAL,4ot,4TAH,4zx,4THAL,4hl,4THEH,4ZAH,3dq cs,4jx,4fl",
  "10ac0=0MANICHAEAN aa os,2vw,2BHETH,2pw,2GHIMEL,2sl,2HE,2ts,1ak UD,1aa sd,2ZHAYIN,2JAYIN",
  "2JHAYIN,2ym,2TETH,2zw,2wu,2XAPH,2KHAPH,2mo,2DHAMEDH,2THAMEDH,2MEM,2qr,2lz,2AYIN,2AAYIN,2PE",
  "2FE,2rc,2QOPH,2XOPH,2QHOPH,2RESH,2mw,2SSHIN,2TAW,1eu bj aj,3aq,10aeb=1dq cs,2by,2jx,2fl",
  "2cs az,1cc hk,2FLEURON,2al cz WITHIN cz,2cz WITHIN cz,3,2co du,2gv ue,10b00=0AVESTAN aa A,2AA",
  "2AO,2AAO,2AN,2AAN,2AE,2AEE,2E,2EE,2O,2OO,2I,2II,2U,2UU,2KE,2XE,2XYE,2XVE,2GE,2GGE,2GHE,2CE",
  "2JE,2TE,2tr,2DE,2DHE,2TTE,2PE,2FE,2BE,2BHE,2NGE,2NGYE,2NGVE,2NE,2NYE,2NNE,2ME,2HME,2YYE,2YE",
  "2VE,2RE,2LE,2SE,2ZE,2vz,2ZHE,2SHYE,2SSHE,2HE,10b39=1eu bj,0TINY co du dy cs cz cc",
  "0ad co du dy cs cz cc,0ee co du dy cs cz cc,1cs cz dy co du cc,1co RINGS dy cs ei cc",
  "1cs ei dy co RINGS cc,0INSCRIPTIONAL PARTHIAN aa os,3vw,3pw,3sl,3HE,3ts,3sd,3ym,3TETH,3zw,3wu",
  "3mo,3MEM,3qr,3lz,3AYIN,3PE,3rc,3QOPH,3RESH,3mw,3TAW,10b58=2dq cs,3co,3aw,3bt,3jx,3fl,3cs az",
  "4ba,1PAHLAVI aa os,3vw,3pw,3sl,3HE,3WAW-AYIN-RESH,3sd,3ym,3TETH,3zw,3wu,3mo,3MEM-QOPH,3qr,3lz",
  "3PE,3rc,3mw,3TAW,10b78=2dq cs,3co,3aw,3bt,3jx,3fl,3cs az,4ba,0PSALTER PAHLAVI aa os,3vw,3pw",
  "3sl,3HE,3WAW-AYIN-RESH,3sd,3ym,3zw,3wu,3mo,3MEM-QOPH,3qr,3lz,3PE,3rc,3mw,3TAW,10b99=2hi bj",
  "2ci hi bj,2bt du ab gr,5cz,10ba9=2dq cs,3co,3aw,3bt,3jx,3fl,3cs az,10c00=0oh TURKIC aa hn A",
  "3gq A,4AE,3hn I,3gq I,4E,3hn O,4OE,3gq OE,3hn AB,3gq AB,3hn AEB,3gq AEB,3hn AG,3gq AG,3hn AEG",
  "3gq AEG,3hn AD,3gq AD,3hn AED,4EZ,3gq EZ,3hn AY,3gq AY,3hn AEY,3gq AEY,3hn AEK,3gq AEK",
  "3hn OEK,3gq OEK,3hn AL,3gq AL,3hn AEL,4ELT,4EM,4AN,4AEN,3gq AEN,3hn ENT,3gq ENT,3hn ENC",
  "3gq ENC,3hn ENY,3gq ENY,4ANG,3hn ENG,3gq AENG,3hn EP,4OP,4IC,4EC,3gq EC,3hn AQ,3gq AQ,3hn IQ",
  "3gq IQ,3hn OQ,3gq OQ,3hn AR,3gq AR,3hn AER,4AS,4AES,4qt,3gq qt,3hn ESH,3gq ESH,3hn AT,3gq AT",
  "3hn AET,3gq AET,3hn OT,4BASH,10c80=1HUNGARIAN ac aa A,4AA,4EB,4AMB,4EC,4ENC,4ECS,4ED,4bi,4E",
  "4CLOSE E,4EE,4EF,4EG,4EGY,4EH,4I,4II,4EJ,4EK,4AK,4UNK,4EL,4ELY,4EM,4EN,4ENY,4O,4OO,4xb OE",
  "4RUDIMENTA OE,4OEE,4EP,4EMP,4ER,4fu ER,4ES,4ESZ,4ET,4ENT,4ETY,4ECH,4U,4UU,4xb UE",
  "4RUDIMENTA UE,4EV,4EZ,4EZS,4ENT-SHAPED ak,4US,10cc0=2ad aa A,4AA,4EB,4AMB,4EC,4ENC,4ECS,4ED",
  "4bi,4E,4CLOSE E,4EE,4EF,4EG,4EGY,4EH,4I,4II,4EJ,4EK,4AK,4UNK,4EL,4ELY,4EM,4EN,4ENY,4O,4OO",
  "4xb OE,4RUDIMENTA OE,4OEE,4EP,4EMP,4ER,4fu ER,4ES,4ESZ,4ET,4ENT,4ETY,4ECH,4U,4UU,4xb UE",
  "4RUDIMENTA UE,4EV,4EZ,4EZS,4ENT-SHAPED ak,4US,10cfa=2dq cs,3by,3jx,3im,3cs az,4ba",
  "0HANIFI ROHINGYA aa A,3BA,3PA,3TA,3pf,3JA,3CA,3HA,3lo,3FA,3DA,3ph,3RA,3RRA,3ZA,3SA,3kt,3KA",
  "3GA,3LA,3MA,3NA,3WA,3KINNA WA,3YA,3KINNA YA,3kp,3lj,3VA,2cm A,3I,3U,3E,3O,2bj SAKIN",
  "3NA KHONNA,2ak HARBAHAY,3TAHALA,3TANA,3TASSI,10d30=2cr ex,3cs,3co,3aw,3bt,3by,3fx,3bv,3br,3dm",
  "10e60=0RUMI cr cs,2co,2aw,2bt,2by,2fx,2bv,2br,2dm,1dq jx,2fl,2jk,2od,2im,2ou,2fe,2mm,2ga",
  "2cs az,2co az,2aw az,2bt az,2by az,2fx az,2bv az,2br az,2dm az,1hq cs dh,3fj,3tl,2co vh",
  "10e80=0YEZIDI aa ELIF,2BE,2PE,2PHE,2tr,2SE,2CIM,2CHIM,2CHHIM,2HHA,2XA,2DAL,2ZAL,2RA,2RHA,2ZA",
  "2JA,2SIN,2mw,2SAD,2DAD,2TA,2ZE,2EYN,2XHEYN,2FA,2VA,3fp af,2QAF,2yr,2KHAF,2GAF,2tt,2MIM,2qr",
  "2UM,2ts,2OW,2EW,2HAY,2YOT,2ET,10eab=1dj hz bj,2MADDA bj,1HYPHENATION bj,10eb0=1aa tt ab cz aj",
  "2YOT ab be aj,10f00=0oh SOGDIAN aa os,3ar os,3vw,3ar vw,3pw,3HE,3ar HE,3ts,3sd,3ym,3zw,3wu",
  "3mo,3MEM,3qr,3ar qr,5ab an hw,3lz,3AYIN,3fp AYIN,3PE,3rc,3ar rc,5ab an hw,3RESH-AYIN-DALETH",
  "3mw,3TAW,3ar TAW,5ab an hw,2dq cs,3co,3aw,3bt,3by,3jx,3fl,3jk,3cs az,2hq cs dh",
  "2el AYIN-DALETH,10f30=0SOGDIAN aa os,2vw,2pw,2HE,2ts,2sd,2ym,2zw,2wu,2mo,2MEM,2qr,2lz,2AYIN",
  "2PE,2rc,2RESH-AYIN,2mw,2TAW,2FETH,2LESH,1kw mw,1dj cz aq,2co du aq,2cz aj,2co du aj,2nz aj",
  "3aq,2bw aj,3aq,2fk bw aq,2RESH aq,2at aq,1dq cs,2jx,2fl,2cs az,1cc co an BARS,5ab du",
  "2bo ab cz,2co lm ab du,2dh bo ab cz,10f70=0oh UYGHUR aa os,3vw,3GIMEL-HETH,3ts,3sd,3ar ym,3zw",
  "3wu,3mo,3MEM,3qr,3lz,3PE,3rc,3RESH,3mw,3TAW,3LESH,2dj cz aj,4aq,3co du aj,5aq,2cc ge,3co BARS",
  "4du,3bt du,10fb0=0CHORASMIAN aa os,2ad os,2vw,2pw,2sl,2HE,2ts,2CURLED ts,2sd,2ym,2zw,2wu,2mo",
  "2MEM,2qr,2lz,2AYIN,2PE,2RESH,2mw,2TAW,1dq cs,2co,2aw,2bt,2jx,2fl,2cs az,10fe0=0ELYMAIC aa os",
  "2vw,2pw,2sl,2HE,2ts,2sd,2ym,2TETH,2zw,2wu,2mo,2MEM,2qr,2lz,2AYIN,2PE,2rc,2QOPH,2RESH,2mw,2TAW",
  "1el ZAYIN-YODH,11000=0BRAHMI ak df,2ct,2ew,2oe,2om,1aa A,2AA,2I,2II,2U,2UU,2cw R,3RR,3L,3LL",
  "2E,2AI,2O,2AU,2KA,2lo,2GA,2qq,2kp,2CA,2lg,2JA,2ul,2lj,2pf,2jv,2ph,2ka,2qz,2TA,2mh,2DA,2po,2NA",
  "2PA,2nx,2BA,2re,2MA,2YA,2RA,2LA,2VA,2kt,2ta,2SA,2HA,2LLA,2oh TAMIL LLLA,4RRA,4NNNA,1cm ak AA",
  "3BHATTIPROLU AA,3I,3II,3U,3UU,3cw R,4RR,4L,4LL,3E,3AI,3O,3AU,1fm,1jc,1al jc,1cc cz,2al cz,2gv",
  "2ua ge,2LOTUS,11052=1dq cs,2co,2aw,2bt,2by,2fx,2bv,2br,2dm,2jx,2fl,2jk,2od,2im,2ou,2fe,2mm",
  "2ga,2cs az,3ba,1cr ex,2cs,2co,2aw,2bt,2by,2fx,2bv,2br,2dm,1ak oh TAMIL fm,1aa oh TAMIL fu E",
  "5O,1cm ak oh TAMIL fu E,6O,1aa oh TAMIL LLA,1107f=1dq JOINER,0KAITHI ak df,2ct,2ew,1aa A,2AA",
  "2I,2II,2U,2UU,2E,2AI,2O,2AU,2KA,2lo,2GA,2qq,2kp,2CA,2lg,2JA,2ul,2lj,2pf,2jv,2ph,2DDDHA,2ka",
  "2RHA,2qz,2TA,2mh,2DA,2po,2NA,2PA,2nx,2BA,2re,2MA,2YA,2RA,2LA,2VA,2kt,2ta,2SA,2HA,1cm ak AA,3I",
  "3II,3U,3UU,3E,3AI,3O,3AU,1ak fm,2kq,1eu ak,1ENUMERATION ak,1dq ak,1hi bj,1al hi bj,1jc,1al jc",
  "1cm ak cw R,110cd=1dq ak aj,110d0=0SORA SOMPENG aa SAH,3TAH,3BAH,3CAH,3DAH,3GAH,3MAH,3NGAH",
  "3LAH,3NAH,3VAH,3PAH,3YAH,3RAH,3iz,3KAH,3JAH,3NYAH,3AH,3EEH,3IH,3UH,3OH,3EH,3MAE,110f0=2cr ex",
  "3cs,3co,3aw,3bt,3by,3fx,3bv,3br,3dm,11100=0CHAKMA ak df,2ct,2ew,1aa AA,2I,2U,2E,2KAA,2KHAA",
  "2GAA,2GHAA,2NGAA,2CAA,2CHAA,2JAA,2JHAA,2NYAA,2TTAA,2TTHAA,2DDAA,2DDHAA,2NNAA,2TAA,2THAA,2DAA",
  "2DHAA,2NAA,2PAA,2PHAA,2BAA,2BHAA,2MAA,2YYAA,2YAA,2RAA,2LAA,2WAA,2SAA,2HAA,1cm ak A,3I,3II,3U",
  "3UU,3E,3AI,3O,3AU,3OI,1O bj,1AU bj,1fm,1MAAYYAA,11136=1cr ex,2cs,2co,2aw,2bt,2by,2fx,2bv,2br",
  "2dm,1hi bj,1jc,1al jc,1fc bj,1aa LHAA,1cm ak AA,3EI,1aa VAA,11150=0MAHAJANI aa A,2I,2U,2E,2O",
  "2KA,2lo,2GA,2qq,2CA,2lg,2JA,2ul,2lj,2pf,2jv,2ph,2ka,2qz,2TA,2mh,2DA,2po,2NA,2PA,2nx,2BA,2re",
  "2MA,2RA,2LA,2VA,2SA,2HA,2RRA,1ak kq,1eu ak,1hi bj,1el SHRI,11180=0SHARADA ak df,2ct,2ew,1aa A",
  "2AA,2I,2II,2U,2UU,2cw R,3RR,3L,3LL,2E,2AI,2O,2AU,2KA,2lo,2GA,2qq,2kp,2CA,2lg,2JA,2ul,2lj,2pf",
  "2jv,2ph,2ka,2qz,2TA,2mh,2DA,2po,2NA,2PA,2nx,2BA,2re,2MA,2YA,2RA,2LA,2LLA,2VA,2kt,2ta,2SA,2HA",
  "1cm ak AA,3I,3II,3U,3UU,3cw R,4RR,4L,4LL,3E,3AI,3O,3AU,1ak fm,2io,2oe,2om,1OM,1jc,1al jc",
  "1eu ak,1fh,1SANDHI bj,1ak kq,1cm ev bj,1EXTRA fu cm bj,1SUTRA bj,1cm ak wh E,1ak ca df,1cr ex",
  "2cs,2co,2aw,2bt,2by,2fx,2bv,2br,2dm,1EKAM,1ak vs,1HEADSTROKE,1CONTINUATION ak,1hi MARK-1",
  "2MARK-2,111e1=0SINHALA iv cr cs,3co,3aw,3bt,3by,3fx,3bv,3br,3dm,2dq jx,3fl,3jk,3od,3im,3ou",
  "3fe,3mm,3ga,3cs az,4ba,11200=0KHOJKI aa A,2AA,2I,2U,2E,2AI,2O,2AU,2KA,2lo,2GA,2GGA,2qq,2kp",
  "2CA,2lg,2JA,2JJA,11213=2lj,2pf,2jv,2ph,2ka,2qz,2TA,2mh,2DA,2DDDA,2po,2NA,2PA,2nx,2BA,2BBA,2re",
  "2MA,2YA,2RA,2LA,2VA,2SA,2HA,2LLA,1cm ak AA,3I,3II,3U,3E,3AI,3O,3AU,1ak ct,2fm,2kq,2SHADDA,1jc",
  "1al jc,1zv fh,1hi bj,1al hi bj,1eu ak,1ak SUKUN,11280=0MULTANI aa A,2I,2U,2E,2KA,2lo,2GA",
  "11288=2qq,1128a=2CA,2lg,2JA,2JJA,1128f=2lj,2pf,2jv,2ph,2DDDA,2ka,2qz,2TA,2mh,2DA,2po,2NA,2PA",
  "2nx,2BA,1129f=2re,2MA,2YA,2RA,2LA,2VA,2SA,2HA,2RRA,2RHA,1hi bj,112b0=0KHUDAWADI aa A,2AA,2I",
  "2II,2U,2UU,2E,2AI,2O,2AU,2KA,2lo,2GA,2GGA,2qq,2kp,2CA,2lg,2JA,2JJA,2ul,2lj,2pf,2jv,2ph,2DDDA",
  "2RRA,2ka,2qz,2TA,2mh,2DA,2po,2NA,2PA,2nx,2BA,2BBA,2re,2MA,2YA,2RA,2LA,2VA,2kt,2SA,2HA,1ak ct",
  "1cm ak AA,3I,3II,3U,3UU,3E,3AI,3O,3AU,1ak kq,2fm,112f0=1cr ex,2cs,2co,2aw,2bt,2by,2fx,2bv,2br",
  "2dm,11300=0GRANTHA ak dj ct aj,2df,2ct,2ew,11305=1aa A,2AA,2I,2II,2U,2UU,2cw R,3L,1130f=2EE",
  "2AI,11313=2OO,2AU,2KA,2lo,2GA,2qq,2kp,2CA,2lg,2JA,2ul,2lj,2pf,2jv,2ph,2ka,2qz,2TA,2mh,2DA,2po",
  "2NA,1132a=2PA,2nx,2BA,2re,2MA,2YA,2RA,11332=2LA,2LLA,11335=2VA,2kt,2ta,2SA,2HA",
  "1133b=0dj BINDU aq,0GRANTHA ak kq,2io,1cm ak AA,3I,3II,3U,3UU,3cw R,4RR,11347=3EE,3AI",
  "1134b=3OO,3AU,1ak fm,11350=1OM,11357=1AU mp bj,1135d=1ak PLUTA,1aa VEDIC ct,3al ct,2cw RR,3LL",
  "1cm ak cw L,4LL,11366=0dj GRANTHA cr ex,3cs,3co,3aw,3bt,3by,3fx,11370=2aa A,3KA,3NA,3VI,3PA",
  "11400=0NEWA aa A,2AA,2I,2II,2U,2UU,2cw R,3RR,3L,3LL,2E,2AI,2O,2AU,2KA,2lo,2GA,2qq,2kp,2NGHA",
  "2CA,2lg,2JA,2ul,2lj,2NYHA,2pf,2jv,2ph,2ka,2qz,2TA,2mh,2DA,2po,2NA,2NHA,2PA,2nx,2BA,2re,2MA",
  "2MHA,2YA,2RA,2RHA,2LA,2LHA,2WA,2kt,2ta,2SA,2HA,1cm ak AA,3I,3II,3U,3UU,3cw R,4RR,4L,4LL,3E",
  "3AI,3O,3AU,1ak fm,2df,2ct,2ew,2kq,2io,2ar ct,1OM,1SIDDHI,1jc,1al jc,1et,1GAP ue,1eu ak,1cr ex",
  "2cs,2co,2aw,2bt,2by,2fx,2bv,2br,2dm,1al et,1PLACEHOLDER bj,1145d=1INSERTION ak,1SANDHI bj",
  "1aa VEDIC ct,1ak oe,2om,11480=0TIRHUTA ANJI,1aa A,2AA,2I,2II,2U,2UU,2cw R,3RR,3L,3LL,2E,2AI",
  "2O,2AU,2KA,2lo,2GA,2qq,2kp,2CA,2lg,2JA,2ul,2lj,2pf,2jv,2ph,2ka,2qz,2TA,2mh,2DA,2po,2NA,2PA",
  "2nx,2BA,2re,2MA,2YA,2RA,2LA,2VA,2kt,2ta,2SA,2HA,1cm ak AA,3I,3II,3U,3UU,3cw R,4RR,4L,4LL,3E",
  "3fu E,3AI,3O,3fu O,3AU,1ak df,2ct,2ew,2fm,2kq,2io,1GVANG,1eu ak,1OM,114d0=1cr ex,2cs,2co,2aw",
  "2bt,2by,2fx,2bv,2br,2dm,11580=0vs aa A,2AA,2I,2II,2U,2UU,2cw R,3RR,3L,3LL,2E,2AI,2O,2AU,2KA",
  "2lo,2GA,2qq,2kp,2CA,2lg,2JA,2ul,2lj,2pf,2jv,2ph,2ka,2qz,2TA,2mh,2DA,2po,2NA,2PA,2nx,2BA,2re",
  "2MA,2YA,2RA,2LA,2VA,2kt,2ta,2SA,2HA,1cm ak AA,3I,3II,3U,3UU,3cw R,4RR,115b8=3E,3AI,3O,3AU",
  "1ak df,2ct,2ew,2fm,2kq,2vs,1jc,1al jc,1fh cz,2ge,1REPETITION MARK-1,2MARK-2,2MARK-3",
  "1yh OF TEXT bj,1hi bj ab TRIDENT bi zs ORNAMENTS,6fy ng,4RAYS bi fy ng,7al ng,7es ng,3al ei",
  "5ab RAYS,3ab al ng,4es ng,4kj ng,4SEPTUPLE ng,4lm bi RAYS,6co ENCLOSURES,6bt ENCLOSURES",
  "1aa THREE-CIRCLE fp I,2TWO-CIRCLE fp I,4II,2fp U,1cm ak fp U,4UU,11600=0MODI aa A,2AA,2I,2II",
  "2U,2UU,2cw R,3RR,3L,3LL,2E,2AI,2O,2AU,2KA,2lo,2GA,2qq,2kp,2CA,2lg,2JA,2ul,2lj,2pf,2jv,2ph,2ka",
  "2qz,2TA,2mh,2DA,2po,2NA,2PA,2nx,2BA,2re,2MA,2YA,2RA,2LA,2VA,2kt,2ta,2SA,2HA,2LLA,1cm ak AA,3I",
  "3II,3U,3UU,3cw R,4RR,4L,4LL,3E,3AI,3O,3AU,1ak ct,2ew,2fm,2ARDHACANDRA,1jc,1al jc,1eu ak",
  "1ak HUVA,11650=1cr ex,2cs,2co,2aw,2bt,2by,2fx,2bv,2br,2dm,11660=0MONGOLIAN xu ab cn,1cp xu",
  "1al xu ab cn,1es xu ab cn,1xu ab al cn,1cp xu ab cn,4al cn,1ca xu,3ab al cn,1SWIRL xu,3ab cn",
  "4al cn,1ci SWIRL xu ab al cn,11680=0TAKRI aa A,2AA,2I,2II,2U,2UU,2E,2AI,2O,2AU,2KA,2lo,2GA",
  "2qq,2kp,2CA,2lg,2JA,2ul,2lj,2pf,2jv,2ph,2ka,2qz,2TA,2mh,2DA,2po,2NA,2PA,2nx,2BA,2re,2MA,2YA",
  "2RA,2LA,2VA,2kt,2SA,2HA,2RRA,1ak ct,2ew,1cm ak AA,3I,3II,3U,3UU,3E,3AI,3O,3AU,1ak fm,2kq",
  "1aa iv lo,1eu ak,116c0=1cr ex,2cs,2co,2aw,2bt,2by,2fx,2bv,2br,2dm,11700=0AHOM aa KA,2lo,2kp",
  "2NA,2TA,2fp TA,2PA,2nx,2BA,2MA,2JA,2lg,2mh,2RA,2LA,2SA,2lj,2HA,2A,2DA,2po,2GA,2fp GA,2qq,2re",
  "2ul,2fp BA,1171d=1fq ak cf LA,4RA,4LIGATING RA,1cm ak A,3AA,3I,3II,3U,3UU,3E,3AW,3O,3AI,3AM",
  "1ak KILLER,11730=1cr ex,2cs,2co,2aw,2bt,2by,2fx,2bv,2br,2dm,1dq jx,2fl,1ak ad hi,2hi,2RULAI",
  "1au VI,1aa CA,2pf,2jv,2ph,2ka,2qz,2LLA,11800=0DOGRA aa A,2AA,2I,2II,2U,2UU,2E,2AI,2O,2AU,2KA",
  "2lo,2GA,2qq,2kp,2CA,2lg,2JA,2ul,2lj,2pf,2jv,2ph,2ka,2qz,2TA,2mh,2DA,2po,2NA,2PA,2nx,2BA,2re",
  "2MA,2YA,2RA,2LA,2VA,2kt,2ta,2SA,2HA,2RRA,1cm ak AA,3I,3II,3U,3UU,3cw R,4RR,3E,3AI,3O,3AU",
  "1ak ct,2ew,2fm,2kq,1eu ak,118a0=0WARANG CITI ac aa NGAA,4A,4WI,4YU,4YA,4YO,4II,4UU,4E,4O,4ANG",
  "4GA,4KO,4ENY,4YUJ,4UC,4ENN,4ODD,4TTE,4NUNG,4DA,4AT,4AM,4BU,4PU,4HIYO,4HOLO,4HORR,4HAR,4SSUU",
  "4SII,4VIYO,2ad aa NGAA,4A,4WI,4YU,4YA,4YO,4II,4UU,4E,4O,4ANG,4GA,4KO,4ENY,4YUJ,4UC,4ENN,4ODD",
  "4TTE,4NUNG,4DA,4AT,4AM,4BU,4PU,4HIYO,4HOLO,4HORR,4HAR,4SSUU,4SII,4VIYO,2cr ex,3cs,3co,3aw,3bt",
  "3by,3fx,3bv,3br,3dm,2dq jx,3fl,3jk,3od,3im,3ou,3fe,3mm,3ga,118ff=2OM,0DIVES AKURU aa A,3AA,3I",
  "3II,3U,3UU,3E,11909=3O,1190c=3KA,3lo,3GA,3qq,3kp,3CA,3lg,3JA,11915=3lj,3pf,11918=3ph,3ka,3qz",
  "3TA,3mh,3DA,3po,3NA,3PA,3nx,3BA,3re,3MA,3YA,3YYA,3RA,3LA,3VA,3kt,3ta,3SA,3HA,3LLA,3ZA",
  "2cm ak AA,4I,4II,4U,4UU,4E,11937=4AI,4O,1193b=2ak ct,3df,3HALANTA,2fm,2PREFIXED NASAL ak",
  "2cf YA,2ap RA,2cf RA,2ak kq,2al jc,2GAP ue,2yh OF TEXT bj,11950=2cr ex,3cs,3co,3aw,3bt,3by",
  "3fx,3bv,3br,3dm,119a0=0NANDINAGARI aa A,2AA,2I,2II,2U,2UU,2cw R,3RR,119aa=2E,2AI,2O,2AU,2KA",
  "2lo,2GA,2qq,2kp,2CA,2lg,2JA,2ul,2lj,2pf,2jv,2ph,2ka,2qz,2TA,2mh,2DA,2po,2NA,2PA,2nx,2BA,2re",
  "2MA,2YA,2RA,2LA,2VA,2kt,2ta,2SA,2HA,2LLA,2RRA,1cm ak AA,3I,3II,3U,3UU,3cw R,4RR,119da=3E,3AI",
  "3O,3AU,1ak ct,2ew,2fm,2io,2vs,1HEADSTROKE,1cm ak wh E,11a00=0ZANABAZAR bn aa A,2cm ak I,4UE",
  "4U,4E,4OE,4O,4AI,4AU,4bq I,3mp bj,2aa KA,3lo,3GA,3qq,3kp,3CA,3lg,3JA,3lj,3pf,3jv,3ph,3ka,3qz",
  "3TA,3mh,3DA,3po,3NA,3PA,3nx,3BA,3re,3MA,3zq,3zr,3DZA,3DZHA,3ZHA,3ZA,3-A,3YA,3RA,3LA,3VA,3kt",
  "3ta,3SA,3HA,3KSSA,2ar fq bj,2ak fm,3df,4ab cn,3mj ab cn,3ct,3ew,2CLUSTER-INITIAL aa RA",
  "2CLUSTER-FINAL aa YA,4RA,4LA,4VA,2ap tp bj,2CLOSING tp bj,2bj wm,3xh,3al xh,3fk wm",
  "2ap DOUBLE-LINED tp bj,2CLOSING DOUBLE-LINED tp bj,2SUBJOINER,11a50=0SOYOMBO aa A,1cm ak I",
  "3UE,3U,3E,3O,3OE,3AI,3AU,3cw R,4L,2mp bj,1aa KA,2lo,2GA,2qq,2kp,2CA,2lg,2JA,2ul,2lj,2pf,2jv",
  "2ph,2ka,2qz,2TA,2mh,2DA,2po,2NA,2PA,2nx,2BA,2re,2MA,2zq,2zr,2DZA,2ZHA,2ZA,2-A,2YA,2RA,2LA,2VA",
  "2kt,2ta,2SA,2HA,2KSSA,1ak oe,2om,1CLUSTER-INITIAL aa RA,3LA,3kt,3SA,1ar fq ak G,4K,4NG,4D,4N",
  "4B,4M,4R,4L,4SH,4S,4-A,1ak ct,2ew,1sm bj,1SUBJOINER,1bj wm,2xh,2al xh,2PLUTA",
  "1tp bj ab oo bi SUN bi es FLAME,8FLAME,7,1TERMINAL MARK-1,2MARK-2",
  "11ab0=0CANADIAN SYLLABICS NATTILIK HI,3HII,3HO,3HOO,3HA,3HAA,3SHRI,3SHRII,3SHRO,3SHROO,3SHRA",
  "3SHRAA,2SPE,2SPI,2SPO,2SPA,0PAU CIN HAU aa PA,4KA,4LA,4MA,4DA,4ZA,4VA,4kp,4HA,4GA,4lo,4SA,4BA",
  "4CA,4TA,4mh,4NA,4nx,4RA,4FA,4lg,4A,4E,4I,4O,4U,4UA,4IA,4ar P,5K,5T,5M,5N,5L,5W,5NG,5Y",
  "3op fo fk,5,3SANDHI go gd,3op fo fk ar,5ar,3SANDHI go gd ar,4fo fk,5,5fk ar,5ar,3MID-LEVEL fo",
  "3go gd hx,3MID-LEVEL fo fk ar,5ar,3LOW-FALLING fo fk,5,3go gd,3LOW-FALLING fo fk ar,5ar",
  "3go gd ar,11c00=0BHAIKSUKI aa A,2AA,2I,2II,2U,2UU,2cw R,3RR,3L,11c0a=2E,2AI,2O,2AU,2KA,2lo",
  "2GA,2qq,2kp,2CA,2lg,2JA,2ul,2lj,2pf,2jv,2ph,2ka,2qz,2TA,2mh,2DA,2po,2NA,2PA,2nx,2BA,2re,2MA",
  "2YA,2RA,2LA,2VA,2kt,2ta,2SA,2HA,1cm ak AA,3I,3II,3U,3UU,3cw R,4RR,4L,11c38=3E,3AI,3O,3AU",
  "1ak df,2ct,2ew,2fm,2io,1jc,1al jc,1zv fh,1GAP FILLER-1,2FILLER-2,11c50=1cr ex,2cs,2co,2aw,2bt",
  "2by,2fx,2bv,2br,2dm,1dq cs,2co,2aw,2bt,2by,2fx,2bv,2br,2dm,2jx,2fl,2jk,2od,2im,2ou,2fe,2mm",
  "2ga,1HUNDREDS UNIT bj,11c70=0MARCHEN tp bj,1bj xh,1aa KA,2lo,2GA,2kp,2CA,2lg,2JA,2lj,2TA,2mh",
  "2DA,2NA,2PA,2nx,2BA,2MA,2zq,2zr,2DZA,2WA,2ZHA,2ZA,2-A,2YA,2RA,2LA,2kt,2SA,2HA,2A",
  "11c92=1sa aa KA,3lo,3GA,3kp,3CA,3lg,3JA,3lj,3TA,3mh,3DA,3NA,3PA,3nx,3BA,3MA,3zq,3zr,3DZA,3WA",
  "3ZHA,3ZA,11ca9=3YA,3RA,3LA,3kt,3SA,3HA,3A,1cm ak AA,3I,3U,3E,3O,1ak ct,2df",
  "11d00=0MASARAM GONDI aa A,3AA,3I,3II,3U,3UU,3E,11d08=3AI,3O,11d0b=3AU,3KA,3lo,3GA,3qq,3kp,3CA",
  "3lg,3JA,3ul,3lj,3pf,3jv,3ph,3ka,3qz,3TA,3mh,3DA,3po,3NA,3PA,3nx,3BA,3re,3MA,3YA,3RA,3LA,3VA",
  "3kt,3ta,3SA,3HA,3LLA,3KSSA,3JNYA,3TRA,2cm ak AA,4I,4II,4U,4UU,4cw R,11d3a=4E,11d3c=4AI,4O",
  "11d3f=4AU,2ak ct,3ew,3kq,3mj,3HALANTA,2fm,2REPHA,2RA-KARA,11d50=2cr ex,3cs,3co,3aw,3bt,3by",
  "3fx,3bv,3br,3dm,11d60=0GUNJALA GONDI aa A,3AA,3I,3II,3U,3UU,11d67=3EE,3AI,11d6a=3OO,3AU,3YA",
  "3VA,3BA,3re,3MA,3KA,3lo,3TA,3mh,3LA,3GA,3qq,3DA,3po,3NA,3CA,3lg,3pf,3jv,3LLA,3JA,3ul,3ph,3ka",
  "3kp,3PA,3nx,3HA,3RA,3SA,2cm ak AA,4I,4II,4U,4UU,11d90=4EE,4AI,11d93=4OO,4AU,2ak ct,3ew,2fm",
  "2OM,11da0=2cr ex,3cs,3co,3aw,3bt,3by,3fx,3bv,3br,3dm,11ee0=0MAKASAR aa KA,2GA,2kp,2PA,2BA,2MA",
  "2TA,2DA,2NA,2CA,2JA,2lj,2YA,2RA,2LA,2VA,2SA,2A,1ANGKA,1cm ak I,3U,3E,3O,1PASSIMBANG,1yh OF hi",
  "11fb0=0LISU aa YHA,11fc0=0TAMIL hq cs THREE-HUNDRED-AND-TWENTIETH,3rk,3EIGHTIETH,3zp",
  "3FORTIETH,3wk,2aw EIGHTIETHS,3SIXTY-FOURTHS,2cs TWENTIETH,3SIXTEENTH-1,3SIXTEENTH-2,3TENTH",
  "3hy,2aw TWENTIETHS,3xk,2cs FIFTH,3fj,3HALF-1,3HALF-2,2aw ji,2DOWNSCALING FACTOR KIIZH,1ak NEL",
  "2CEVITU,2AAZHAAKKU,2UZHAKKU,2MUUVUZHAKKU,2KURUNI,2PATHAKKU,2MUKKURUNI,2KAACU,2PANAM,2PON",
  "2VARAAKAN,2PAARAM,2KUZHI,2VELI,1WET CULTIVATION ak,1DRY CULTIVATION ak,1LAND ak,1SALT PAN ak",
  "1TRADITIONAL CREDIT ak,2dq ak,1CURRENT ak,1bi ODD ak,1SPENT ak,1TOTAL ak,1IN POSSESSION ak",
  "1STARTING me ak,1ak MUTHALIYA,2VAKAIYARAA,11fff=1cc yh OF TEXT,0CUNEIFORM ak A,3bs A,4BAD",
  "4ug jy,4HA,4IGI,4LAGAR id,4MUSH,4SAG,2A2,2AB,3bs ASH2,4DUN3 id,4GAL,4ug jy,4HA,4IGI id,4IMIN",
  "4uo,4SHESH,4U cy U cy U,3id,2AB2,3bs BALAG,4ug jy,4ME cy EN,4SHA3,4xn,2AD,2AK,3bs ERIN2",
  "4SHITA cy wt,2AL,3bs AL,4DIM2,4wt,4HA,4KAD3,4KI,4vz,4USH,2ALAN,2os,2AMAR,3bs vz,2AN,3dy AN",
  "3aw bs,3cy NAGA qf AN cy NAGA,5fb,2ANSHE,2APIN,2ARAD,3bs KUR,2ARKAB,2ASAL2,2qt,3ZIDA jy",
  "3KABA jy,3dy qt TUG2 dy TUG2 TUG2 dy TUG2 PAP,5dy qt,7ep qt dy qt dy qt,2ASH2,2ASHGAB,2BA",
  "2BAD,2BAG3,2BAHAR2,2BAL,3dy BAL,2BALAG,2ge,2BARA2,2BI,3bs A,4GAR,4IGI id,2BU,3dy BU AB,5UN",
  "3ep BU,2BULUG,3dy BULUG,2BUR,2BUR2,2DA,2DAG,3KISIM5 bs A cy MASH,5AMAR,5BALAG,5BI,5GA",
  "6cy MASH,5GI,5GIR2,5GUD,5HA,5IR,6cy LU,5KAK,5LA,5LU,6cy MASH2,5LUM,5NE,5PAP cy PAP,5SI,5xn",
  "5U2 cy GIR2,5USH,2DAM,2DAR,2DARA3,2DARA4,2DI,2DIB,2DIM,3bs vz,2DIM2,2DIN,3pz U id qs,2qs,2DU",
  "3dy DU,3id,3sz,2DUB,3bs ESH2,2DUB2,2DUG,2DUGUD,2DUH,2DUN,2DUN3,3id,4id,2DUN4,2DUR2,2E,3bs PAP",
  "3dy E qr dy qr,2E2,3bs A cy HA cy DA,4GAR,4MI,4SAL,4vz,4U,2EDIN,2EGIR,2EL,2EN,3bs ug,5jy,4ME",
  "3ep EN,3qf EN,3fb,2EREN,2ERIN2,2ESH2,2EZEN,3bs A,5cy LAL,7bs LAL,4AN,4BAD,4DUN3 id,6id,4HA",
  "5id,4IGI id,4pz,5fb,4KU3,4LA,4LAL bs LAL,4LI,4LU,4U2,4UD,2GA,3id,2GA2,3bs A cy DA cy HA,6HA",
  "6IGI,4AB2 jy cy TAB,4AN,4qt,4ASH2 cy GAL,4BAD,4ge cy RA,4BUR,5cy RA,4DA,4DI,4DIM bs vz,4DUB",
  "4EL,5cy LA,4EN,5bs ug jy,4ug jy,4GAR,4GI,4GI4,5cy A,4GIR2 cy SU,4HA cy LU cy ESH2,4HAL,5cy LA",
  "4HI cy LI,4HUB2,4IGI id,4ISH cy HU cy qt,4KAK,4pz,4KID,5cy LAL,4KU3 cy AN,4LA,4ME cy EN,4MI",
  "4qr,5dy qr,4PA,4SAL,4SAR,4vz,5cy TUR,4SHID,4SUM,4xn,4U,4UD,5cy DU,3dy GA2,2GABA,3ep GABA,2GAD",
  "3dy GAD GAR dy GAR,2GAL,3GAD dy GAD GAR dy GAR,2GALAM,2GAM,2GAN,2ug,3jy,3dy ug,3ep ug,2GAR",
  "2GAR3,2GASHAN,2GESHTIN,3bs KUR,2GI,3bs E,4U,3ep GI,2GI4,3dy GI4,3ep GI4,2GIDIM,2GIR2,3id",
  "2GIR3,3bs A cy IGI,4ug jy,4IGI,4LU cy IGI,4PA,2GISAL,2wt,3ep wt,3bs BAD,4xn,3jy,2GU,3ep GU",
  "2GU2,3bs KAK,5bs IGI id,4qr,4SAL cy TUG2,3id,2GUD,3bs A cy KUR,4KUR,3dy GUD LUGAL,2GUL,2GUM",
  "3bs vz,2GUR,2GUR7,2GURUN,2GURUSH,2HA,3jy,3id,2HAL,2HI,3bs qt,4ASH2,4BAD,4qs,4GAD,4KIN,4qr,4vz",
  "4U,2HU,2HUB2,3bs AN,4HAL,4pz,4LISH,4UD,2HUL2,2I,3A,2IB,2IDIM,3dy IDIM BUR,5fb,2IG,2IGI,3DIB",
  "3RI,3dy IGI SHIR dy SHIR UD dy UD,3id,2IL,3bs ug jy,2IL2,2IM,3bs xn,3ep IM,3qf IM,3fb,2IMIN",
  "2IN,2IR,2ISH,2KA,3bs A,4AD,5cy KU3,4ASH2,4BAD,4BALAG,4ge,4BI,4ERIN2,4ESH2,4GA,4GAL,4ug jy",
  "4GAR,5cy SHA3 cy A,4GI,4GIR2,4wt cy SAR,5ep wt,4GU,4GUR7,4IGI,4IM,4KAK,4KI,4KID,4LI,4LU,4ME",
  "5cy DU,6GI,6TE,4MI,5cy NUNUZ,4NE,4qr,4PI,4RU,4SA,4SAR,4kt,4vz,4SHID,4SHU,4SIG,4SUHUR,4TAR,4U",
  "4U2,4UD,4UMUM bs PA,4USH,4ZI,2KA2,3ep KA2,2KAB,2KAD2,2KAD3,2KAD4,2KAD5,3dy KAD5,2KAK",
  "3bs IGI id,2KAL,3bs BAD,3ep KAL,2KAM2,2KAM4,2pz,3uo bs U dy uo bs U,3dy pz uo bs U dy uo bs U",
  "2KESH2,2KI,3bs BAD,4U,4UD,2KID,2KIN,2KISAL,2KISH,2KISIM5,3dy KISIM5,2KU",
  "3dy HI bs ASH2 KU dy HI bs ASH2,2KU3,2KU4,3hx af,2KU7,2KUL,3id,2KUN,2KUR,3qf KUR,2KUSHU2",
  "2KWU318,2LA,2uo,3bs A,5cy DA cy HA,6GAR,6LAL,4AL,4AN,4qt ZIDA jy,4BAD,4BI,4DAR,4EN,4GA,4GAR",
  "4GUD,5cy GUD,4HA,4HAL,4HI bs qr,4IGI id,4IM,5cy HA,6LU,4KI,4KIN,4KU3,4KUL,5cy HI cy A,4uo",
  "4LISH,4LU,4LUL,4ME,5cy EN,4MUSH,4NE,4vz cy SUM,4SHITA cy wt cy ERIN2,7jy,4SHU2,5cy SHU2,4SUM",
  "4TAG,4xn,4TE cy A cy SU cy NA,4U,5cy A,6U cy U,4U2 cy qt,4UD,4USH,3fb,2LAGAR,3bs vz,5cy SUM",
  "3id,4dy LAGAR id vz,2LAHSHU,2LAL,3bs LAL,2tt,3bs KUR,5cy RU,2LI,2LIL,2LIMMU2,2LISH,2LU",
  "3bs BAD,2LU2,3bs AL,4BAD,4ESH2,5jy,4ug jy,4HI bs BAD,4IM,4KAD2,4KAD3,5cy qt,4KI,4LA cy qt,4uo",
  "4ME cy EN,4NE,4NU,4SI cy qt,4SIK2 cy BU,4TUG2,3jy,3ep LU2,3qf LU2,3fb,3sz,2LU3,2LUGAL",
  "3dy LUGAL,3qf LUGAL,3sz,2LUH,2LUL,2LUM,3dy LUM,5GAR dy GAR,2MA,3bs xn,3id,2MA2,2MAH,2MAR",
  "2MASH,2MASH2,2ME,2MES,2MI,2MIN,2MU,3dy MU,2MUG,3id,2MUNSUB,2MURGU2,2MUSH,3bs A,4KUR,4ZA",
  "3dy MUSH,5bs A cy NA,3ep MUSH,2MUSH3,3bs A,5cy DI,4DI,3id,2NA,2NA2,2NAGA,3ca,3bs SHU jy",
  "3qf NAGA,2NAGAR,2NAM NUTILLU,3,2NAM2,2NE,3bs A,4UD,3sz,2NI,3bs E,2NI2,2NIM,3bs ug jy",
  "4GAR cy ug jy,2NINDA2,3bs AN,4qt,5cy qt,4GUD,4ME cy ug jy,4NE,4qr,4vz,5cy A AN,6qt,7cy qt",
  "4U2 cy qt,4USH,2NISAG,2NU,2NU11,2qr,3LAGAR bs GAR,5MASH,5SAL,6dy qr LAGAR bs SAL,5USH,3jy",
  "3dy qr,3ep qr,5LAGAR dy LAGAR,2NUNUZ,3AB2 bs ASHGAB,5BI,5DUG,5GUD,5IGI id,5KAD3,5LA,5NE",
  "5SILA3,5U2,3KISIM5 bs BI,6U,2PA,2PAD,2PAN,2PAP,2PESH2,2PI,3bs A,4AB,4BI,4BU,4E,4I,4IB,4U,4U2",
  "3ep PI,2PIRIG,3bs KAL,4UD,4ZA,3qf PIRIG,2RA,2RAB,2RI,2RU,2SA,2SAG NUTILLU,3,3bs A,4DU,4DUB",
  "4HA,4KAK,4KUR,4LUM,4MI,4qr,4SAL,4SHID,4TAB,4U2,4UB,4UM,4UR,4USH,3dy SAG,3id,2SAL,3uo bs ASH2",
  "2SANGA2,2SAR,2kt,2SHA3,3bs A,4BAD,4wt,4NE,4SHU2,4TUR,4U,5cy A,2SHA6,2SHAB6,2zo,2vz,3HU",
  "3dy vz GAD dy GAD GAR dy GAR,5TAB dy TAB GAR dy GAR,2SHEG9,2SHEN,2SHESH,2SHESH2,2SHESHLAM",
  "2SHID,3bs A,4IM,2SHIM,3bs A,4BAL,4BULUG,4DIN,4GAR,4IGI,5id,4KUSHU2,4LUL,4MUG,4SAL,2SHINIG",
  "2SHIR,3jy,3dy SHIR BUR dy BUR,2SHITA,2SHU,3dy ca SHU,2SHU2,2SHUBUR,2SI,3id,2SIG,2SIG4",
  "3dy SIG4 SHU2,2SIK2,2SILA3,2SU,3dy SU,2SUD,2SUD2,2SUHUR,2SUM,2SUMASH,2SUR,2SUR9,2TA,3di",
  "3bs HI,4MI,3id,2TAB,3dy TAB NI dy NI qs dy qs,3fb,2TAG,3bs BI,4GUD,4vz,4SHU,4TUG2,4UD,2xn",
  "2TAR,2TE,3id,2TI,3jy,2TIL,2TIR,3bs xn,3dy TIR,5GAD dy GAD GAR dy GAR,2TU,2TUG2,2TUK,2TUM,2TUR",
  "3dy TUR ZA dy ZA,2U,3GUD,3U U,3dy U PA dy PA GAR dy GAR,5SUR dy SUR,5U bq dy U bq,2U2,2UB,2UD",
  "3KUSHU2,3bs BAD,4MI,4U cy U cy U,9id,3id,3sz,4bs BAD,2UDUG,2UM,3bs uo,4ME cy DA,4SHA3,4U",
  "2UMBIN,2UMUM,3bs pz,4PA,2UN,3id,2UR,3ep UR,3sz,2UR2,3bs A cy HA,6NA,4AL,4HA,4qr,4U2,5cy qt",
  "6BI,2UR4,2URI,2URI3,2URU,3bs A,4ASHGAB,4ge,4DUN,4GA,4GAL,4ug jy,4GAR,4GU,4HA,4IGI,4IM,4ISH",
  "4KI,4LUM,4MIN,4PA,4vz,4SIG4,4TU,4U cy GUD,4UD,4URUDA,2URUDA,3bs U,2USH,3bs A,4KU,4KUR,4xn",
  "2USHX,2USH2,2USHUMX,2UTUKI,2UZ3,3bs pz,2UZU,2ZA,3jy,3fb bs KUR,2ZAG,2ZAMX,2ZE2,2ZI,3dy ZI",
  "2ZI3,2ZIB,3KABA jy,2ZIG,2ZIZ2,2ZU,2ZU5,3bs A,2ZUBUR,2ZUM,2KAP ELAMITE,2AB bs qr,2AB2 bs A",
  "2AMAR bs KUG,2DAG KISIM5 bs U2 cy MASH,2DAG3,2qs cy SHU,2DUB bs vz,2EZEN bs GUD,4vz",
  "2GA2 bs AN cy KAK cy A,4ASH2,2GE22,2GIG,2HUSH,2KA bs ANSHE,4ASH3,4wt,4GUD,4HI bs ASH2,4LUM",
  "4PA,4SHUL,4TU,4UR2,2uo bs GI,2LU2 sz bs BAD,3bs ESH2 cy LAL,4SHU,2MESH,2MUSH3 bs ZA,2NA4,2NIN",
  "2NIN9,2NINDA2 bs BAL,4GI,2NU11 cp ga dn,2PESH2 di,2PIR2,2SAG bs IGI id,2TI2,2UM bs ME,2U U",
  "12400=1NUMERIC ak co qt,3aw qt,3bt qt,3by qt,3fx qt,3bv qt,3br qt,3dm qt,3aw qs,3bt qs,3by qs",
  "3fx qs,3bv qs,3br qs,3dm qs,3bt U,3by U,3fx U,3bv U,3br U,3dm U,3cs GESH2,3co GESH2,3aw GESH2",
  "3bt GESH2,3by GESH2,3fx GESH2,3bv GESH2,3br GESH2,3dm GESH2,3cs GESHU,3co GESHU,3aw GESHU",
  "3bt GESHU,3by GESHU,3co zo,3aw zo,5hx af,3bt zo,3by zo,3fx zo,3bv zo,3br zo,3dm zo,3cs SHARU",
  "3co SHARU,3aw SHARU,5hx af,3bt SHARU,3by SHARU,3zo bs GAL cy qs,7MIN,3cs BURU,3co BURU",
  "3aw BURU,5hx af,3bt BURU,3by BURU,3aw hx af ESH16,6ESH21,3bt hx af LIMMU,6LIMMU4,6LIMMU A,7B",
  "3fx hx af ASH9,3bv hx af IMIN3,6IMIN A,7B,3br hx af USSU,6USSU3,3dm hx af ILIMMU,6ILIMMU3",
  "6ILIMMU4,6ILIMMU A,3co qt jy,3aw qt jy,3bt qt jy,3by qt jy,3fx qt jy,3cs BAN2,3co BAN2",
  "3aw BAN2,3bt BAN2,5hx af,3by BAN2,5hx af,3NIGIDAMIN,3NIGIDAESH,3cs ESHE3,3co ESHE3,3cs tl qs",
  "3co vh qs,3by SIXTHS qs,3cs tl hx af A,3co vh hx af A,3cs hy qt,4fj qt,3oh ASSYRIAN cs SIXTH",
  "6fj,3cs fj GUR,4dh GUR,3ELAMITE cs tl,4co vh,4od,4im,3bt U hx af,3by U hx af,3fx U hx af",
  "3bv U hx af,3br U hx af,3dm U hx af,12470=1cc ak oh ASSYRIAN zv yf,3an iw,3dl iw,4TRICOLON",
  "4QUADCOLON,12480=1ak AB bs qr jy,4SHU2,2AD bs ESH2,2BAD bs qs jy,2BAHAR2 bs AB2,4NI,4ZA",
  "2BU dy BU bs NA2,2DA bs xn,2DAG bs KUR,2DIM bs IGI,4U U U,2DIM2 bs UD,2DUG bs ANSHE,4qt",
  "5AT av,4DIN,4DUN,4ERIN2,4GA,4GI,4GIR2 id,4wt,4HA,4HI,4IGI id,4pz,4KUR,4KUSHU2,5cy pz,4LAK-020",
  "4tt,5bs KUR,4LUH cy wt,4MASH,4MES,4MI,4NI,4PI,4vz,4SI id,2E2 bs KUR,4PAP,2ERIN2 X",
  "2ESH2 ep ESH2,2EZEN sz bs qt,5HI,5IGI id,5LA,5LAL,5ME,5MES,5SU,3bs SU,2GA2 bs BAHAR2,4DIM id",
  "4DUG bs IGI id,6pz,4EREN,4GA,4GAR cy DI,6NE,4HA cy A,4KUSHU2 cy pz,4tt,5bs KUR,4LUH,4MUSH,4NE",
  "5cy E2,6GI,4SHIM,4ZIZ2,2GABA cp ga dn,2GESHTIN bs U,2wt bs wt ep wt,2GU2 bs IGI id",
  "2GUD cy wt bs xn,2HA jy id,2HI bs qt dy HI bs qt,2KA bs BU,4KA,4U U U,4UR,2uo bs ZU dy ZU",
  "2LAK-003,2LAK-021,2LAK-025,2LAK-030,2LAK-050,2LAK-051,2LAK-062,2LAK-079 dy LAK-079 id",
  "2LAK-080,2LAK-081 dy LAK-081,2LAK-092,2LAK-130,2LAK-142,2LAK-210,2LAK-219,2LAK-220,2LAK-225",
  "2LAK-228,2LAK-238,2LAK-265,2LAK-266,2LAK-343,2LAK-347,2LAK-348,2LAK-383,2LAK-384,2LAK-390",
  "2LAK-441,2LAK-449,3bs GU,4IGI,4PAP cy LU3,6PAP cy LU3,4U2 cy BA,2LAK-450,2LAK-457,2LAK-470",
  "2LAK-483,2LAK-490,2LAK-492,2LAK-493,2LAK-495,2LAK-550,2LAK-608,2LAK-617,3bs qt,4BAD",
  "4DUN3 id id,4KU3,4LA,4TAR,4TE,4U2,4UD,4URUDA,2LAK-636,2LAK-648,3bs DUB,4GA,4IGI,5id,4NI",
  "4PAP cy PAP cy LU3,4SHESH cy KI,4UD,4URUDA,2LAK-724,2LAK-749,2LU2 id bs qt,3bs qs,4HAL,4PAP",
  "5cy PAP cy LU3,4xn,2MI cy ZA7,2MUSH dy MUSH bs GA,6KAK,2NINDA2 bs DIM id,4wt,4GUL,4HI,4KESH2",
  "4LAK-050,4MASH,4PAP cy PAP,4U,5cy U,4URUDA,2SAG id bs HA,3bs EN,4vz AT av,4xn,2SHA6 jy",
  "2vz dy vz,3cy HUB2,4NAM2,4SAR,2SHU2 cy DUG bs NI,4E2 bs AN,2SI bs xn,2xn cy SAG,2TUM bs ug jy",
  "4aw qs,2UR2 ca,3bs UD,2URU bs DARA3,4LAK-668,4LU3,2ZA7,2ZU dy ZU cy SAR,2ZU5 bs aw qs jy",
  "12f90=0CYPRO-MINOAN ak CM001,2CM002,2CM004,2CM005,2CM006,2CM007,2CM008,2CM009,2CM010,2CM011",
  "2CM012,2CM012B,2CM013,2CM015,2CM017,2CM019,2CM021,2CM023,2CM024,2CM025,2CM026,2CM027,2CM028",
  "2CM029,2CM030,2CM033,2CM034,2CM035,2CM036,2CM037,2CM038,2CM039,2CM040,2CM041,2CM044,2CM046",
  "2CM047,2CM049,2CM050,2CM051,2CM052,2CM053,2CM054,2CM055,2CM056,2CM058,2CM059,2CM060,2CM061",
  "2CM062,2CM063,2CM064,2CM066,2CM067,2CM068,2CM069,2CM070,2CM071,2CM072,2CM073,2CM074,2CM075",
  "2CM075B,2CM076,2CM078,2CM079,2CM080,2CM081,2CM082,2CM083,2CM084,2CM085,2CM086,2CM087,2CM088",
  "2CM089,2CM090,2CM091,2CM092,2CM094,2CM095,2CM096,2CM097,2CM098,2CM099,2CM100,2CM101,2CM102",
  "2CM103,2CM104,2CM105,2CM107,2CM108,2CM109,2CM110,2CM112,2CM114,2CM301,2CM302",
  "13000=0EGYPTIAN HIEROGLYPH A001,2A002,2A003,2A004,2A005,2A005A,2A006,2A006A,2A006B,2A007",
  "2A008,2A009,2A010,2A011,2A012,2A013,2A014,2A014A,2A015,2A016,2A017,2A017A,2A018,2A019,2A020",
  "2A021,2A022,2A023,2A024,2A025,2A026,2A027,2A028,2A029,2A030,2A031,2A032,2A032A,2A033,2A034",
  "2A035,2A036,2A037,2A038,2A039,2A040,2A040A,2A041,2A042,2A042A,2A043,2A043A,2A044,2A045,2A045A",
  "2A046,2A047,2A048,2A049,2A050,2A051,2A052,2A053,2A054,2A055,2A056,2A057,2A058,2A059,2A060",
  "2A061,2A062,2A063,2A064,2A065,2A066,2A067,2A068,2A069,2A070,2B001,2B002,2B003,2B004,2B005",
  "2B005A,2B006,2B007,2B008,2B009,2C001,2C002,2C002A,2C002B,2C002C,2C003,2C004,2C005,2C006,2C007",
  "2C008,2C009,2C010,2C010A,2C011,2C012,2C013,2C014,2C015,2C016,2C017,2C018,2C019,2C020,2C021",
  "2C022,2C023,2C024,2D001,2D002,2D003,2D004,2D005,2D006,2D007,2D008,2D008A,2D009,2D010,2D011",
  "2D012,2D013,2D014,2D015,2D016,2D017,2D018,2D019,2D020,2D021,2D022,2D023,2D024,2D025,2D026",
  "2D027,2D027A,2D028,2D029,2D030,2D031,2D031A,2D032,2D033,2D034,2D034A,2D035,2D036,2D037,2D038",
  "2D039,2D040,2D041,2D042,2D043,2D044,2D045,2D046,2D046A,2D047,2D048,2D048A,2D049,2D050,2D050A",
  "2D050B,2D050C,2D050D,2D050E,2D050F,2D050G,2D050H,2D050I,2D051,2D052,2D052A,2D053,2D054,2D054A",
  "2D055,2D056,2D057,2D058,2D059,2D060,2D061,2D062,2D063,2D064,2D065,2D066,2D067,2D067A,2D067B",
  "2D067C,2D067D,2D067E,2D067F,2D067G,2D067H,2E001,2E002,2E003,2E004,2E005,2E006,2E007,2E008",
  "2E008A,2E009,2E009A,2E010,2E011,2E012,2E013,2E014,2E015,2E016,2E016A,2E017,2E017A,2E018,2E019",
  "2E020,2E020A,2E021,2E022,2E023,2E024,2E025,2E026,2E027,2E028,2E028A,2E029,2E030,2E031,2E032",
  "2E033,2E034,2E034A,2E036,2E037,2E038,2F001,2F001A,2F002,2F003,2F004,2F005,2F006,2F007,2F008",
  "2F009,2F010,2F011,2F012,2F013,2F013A,2F014,2F015,2F016,2F017,2F018,2F019,2F020,2F021,2F021A",
  "2F022,2F023,2F024,2F025,2F026,2F027,2F028,2F029,2F030,2F031,2F031A,2F032,2F033,2F034,2F035",
  "2F036,2F037,2F037A,2F038,2F038A,2F039,2F040,2F041,2F042,2F043,2F044,2F045,2F045A,2F046,2F046A",
  "2F047,2F047A,2F048,2F049,2F050,2F051,2F051A,2F051B,2F051C,2F052,2F053,2G001,2G002,2G003,2G004",
  "2G005,2G006,2G006A,2G007,2G007A,2G007B,2G008,2G009,2G010,2G011,2G011A,2G012,2G013,2G014,2G015",
  "2G016,2G017,2G018,2G019,2G020,2G020A,2G021,2G022,2G023,2G024,2G025,2G026,2G026A,2G027,2G028",
  "2G029,2G030,2G031,2G032,2G033,2G034,2G035,2G036,2G036A,2G037,2G037A,2G038,2G039,2G040,2G041",
  "2G042,2G043,2G043A,2G044,2G045,2G045A,2G046,2G047,2G048,2G049,2G050,2G051,2G052,2G053,2G054",
  "2H001,2H002,2H003,2H004,2H005,2H006,2H006A,2H007,2H008,2I001,2I002,2I003,2I004,2I005,2I005A",
  "2I006,2I007,2I008,2I009,2I009A,2I010,2I010A,2I011,2I011A,2I012,2I013,2I014,2I015,2K001,2K002",
  "2K003,2K004,2K005,2K006,2K007,2K008,2L001,2L002,2L002A,2L003,2L004,2L005,2L006,2L006A,2L007",
  "2L008,2M001,2M001A,2M001B,2M002,2M003,2M003A,2M004,2M005,2M006,2M007,2M008,2M009,2M010,2M010A",
  "2M011,2M012,2M012A,2M012B,2M012C,2M012D,2M012E,2M012F,2M012G,2M012H,2M013,2M014,2M015,2M015A",
  "2M016,2M016A,2M017,2M017A,2M018,2M019,2M020,2M021,2M022,2M022A,2M023,2M024,2M024A,2M025,2M026",
  "2M027,2M028,2M028A,2M029,2M030,2M031,2M031A,2M032,2M033,2M033A,2M033B,2M034,2M035,2M036,2M037",
  "2M038,2M039,2M040,2M040A,2M041,2M042,2M043,2M044,2N001,2N002,2N003,2N004,2N005,2N006,2N007",
  "2N008,2N009,2N010,2N011,2N012,2N013,2N014,2N015,2N016,2N017,2N018,2N018A,2N018B,2N019,2N020",
  "2N021,2N022,2N023,2N024,2N025,2N025A,2N026,2N027,2N028,2N029,2N030,2N031,2N032,2N033,2N033A",
  "2N034,2N034A,2N035,2N035A,2N036,2N037,2N037A,2N038,2N039,2N040,2N041,2N042,2NL001,2NL002",
  "2NL003,2NL004,2NL005,2NL005A,2NL006,2NL007,2NL008,2NL009,2NL010,2NL011,2NL012,2NL013,2NL014",
  "2NL015,2NL016,2NL017,2NL017A,2NL018,2NL019,2NL020,2NU001,2NU002,2NU003,2NU004,2NU005,2NU006",
  "2NU007,2NU008,2NU009,2NU010,2NU010A,2NU011,2NU011A,2NU012,2NU013,2NU014,2NU015,2NU016,2NU017",
  "2NU018,2NU018A,2NU019,2NU020,2NU021,2NU022,2NU022A,2O001,2O001A,2O002,2O003,2O004,2O005",
  "2O005A,2O006,2O006A,2O006B,2O006C,2O006D,2O006E,2O006F,2O007,2O008,2O009,2O010,2O010A,2O010B",
  "2O010C,2O011,2O012,2O013,2O014,2O015,2O016,2O017,2O018,2O019,2O019A,2O020,2O020A,2O021,2O022",
  "2O023,2O024,2O024A,2O025,2O025A,2O026,2O027,2O028,2O029,2O029A,2O030,2O030A,2O031,2O032,2O033",
  "2O033A,2O034,2O035,2O036,2O036A,2O036B,2O036C,2O036D,2O037,2O038,2O039,2O040,2O041,2O042",
  "2O043,2O044,2O045,2O046,2O047,2O048,2O049,2O050,2O050A,2O050B,2O051,2P001,2P001A,2P002,2P003",
  "2P003A,2P004,2P005,2P006,2P007,2P008,2P009,2P010,2P011,2Q001,2Q002,2Q003,2Q004,2Q005,2Q006",
  "2Q007,2R001,2R002,2R002A,2R003,2R003A,2R003B,2R004,2R005,2R006,2R007,2R008,2R009,2R010,2R010A",
  "2R011,2R012,2R013,2R014,2R015,2R016,2R016A,2R017,2R018,2R019,2R020,2R021,2R022,2R023,2R024",
  "2R025,2R026,2R027,2R028,2R029,2S001,2S002,2S002A,2S003,2S004,2S005,2S006,2S006A,2S007,2S008",
  "2S009,2S010,2S011,2S012,2S013,2S014,2S014A,2S014B,2S015,2S016,2S017,2S017A,2S018,2S019,2S020",
  "2S021,2S022,2S023,2S024,2S025,2S026,2S026A,2S026B,2S027,2S028,2S029,2S030,2S031,2S032,2S033",
  "2S034,2S035,2S035A,2S036,2S037,2S038,2S039,2S040,2S041,2S042,2S043,2S044,2S045,2S046,2T001",
  "2T002,2T003,2T003A,2T004,2T005,2T006,2T007,2T007A,2T008,2T008A,2T009,2T009A,2T010,2T011",
  "2T011A,2T012,2T013,2T014,2T015,2T016,2T016A,2T017,2T018,2T019,2T020,2T021,2T022,2T023,2T024",
  "2T025,2T026,2T027,2T028,2T029,2T030,2T031,2T032,2T032A,2T033,2T033A,2T034,2T035,2T036,2U001",
  "2U002,2U003,2U004,2U005,2U006,2U006A,2U006B,2U007,2U008,2U009,2U010,2U011,2U012,2U013,2U014",
  "2U015,2U016,2U017,2U018,2U019,2U020,2U021,2U022,2U023,2U023A,2U024,2U025,2U026,2U027,2U028",
  "2U029,2U029A,2U030,2U031,2U032,2U032A,2U033,2U034,2U035,2U036,2U037,2U038,2U039,2U040,2U041",
  "2U042,2V001,2V001A,2V001B,2V001C,2V001D,2V001E,2V001F,2V001G,2V001H,2V001I,2V002,2V002A,2V003",
  "2V004,2V005,2V006,2V007,2V007A,2V007B,2V008,2V009,2V010,2V011,2V011A,2V011B,2V011C,2V012",
  "2V012A,2V012B,2V013,2V014,2V015,2V016,2V017,2V018,2V019,2V020,2V020A,2V020B,2V020C,2V020D",
  "2V020E,2V020F,2V020G,2V020H,2V020I,2V020J,2V020K,2V020L,2V021,2V022,2V023,2V023A,2V024,2V025",
  "2V026,2V027,2V028,2V028A,2V029,2V029A,2V030,2V030A,2V031,2V031A,2V032,2V033,2V033A,2V034",
  "2V035,2V036,2V037,2V037A,2V038,2V039,2V040,2V040A,2W001,2W002,2W003,2W003A,2W004,2W005,2W006",
  "2W007,2W008,2W009,2W009A,2W010,2W010A,2W011,2W012,2W013,2W014,2W014A,2W015,2W016,2W017,2W017A",
  "2W018,2W018A,2W019,2W020,2W021,2W022,2W023,2W024,2W024A,2W025,2X001,2X002,2X003,2X004,2X004A",
  "2X004B,2X005,2X006,2X006A,2X007,2X008,2X008A,2Y001,2Y001A,2Y002,2Y003,2Y004,2Y005,2Y006,2Y007",
  "2Y008,2Z001,2Z002,2Z002A,2Z002B,2Z002C,2Z002D,2Z003,2Z003A,2Z003B,2Z004,2Z004A,2Z005,2Z005A",
  "2Z006,2Z007,2Z008,2Z009,2Z010,2Z011,2Z012,2Z013,2Z014,2Z015,2Z015A,2Z015B,2Z015C,2Z015D",
  "2Z015E,2Z015F,2Z015G,2Z015H,2Z015I,2Z016,2Z016A,2Z016B,2Z016C,2Z016D,2Z016E,2Z016F,2Z016G",
  "2Z016H,2AA001,2AA002,2AA003,2AA004,2AA005,2AA006,2AA007,2AA007A,2AA007B,2AA008,2AA009,2AA010",
  "2AA011,2AA012,2AA013,2AA014,2AA015,2AA016,2AA017,2AA018,2AA019,2AA020,2AA021,2AA022,2AA023",
  "2AA024,2AA025,2AA026,2AA027,2AA028,2AA029,2AA030,2AA031,2AA032,13430=2an JOINER,2as JOINER",
  "2INSERT AT sb START,4gz START,4sb yh,4gz yh,2ho bb,2BEGIN SEGMENT,2yh SEGMENT",
  "14400=0ANATOLIAN HIEROGLYPH A001,2A002,2A003,2A004,2A005,2A006,2A007,2A008,2A009,2A010,2A010A",
  "2A011,2A012,2A013,2A014,2A015,2A016,2A017,2A018,2A019,2A020,2A021,2A022,2A023,2A024,2A025",
  "2A026,2A026A,2A027,2A028,2A029,2A030,2A031,2A032,2A033,2A034,2A035,2A036,2A037,2A038,2A039",
  "2A039A,2A040,2A041,2A041A,2A042,2A043,2A044,2A045,2A045A,2A046,2A046A,2A046B,2A047,2A048",
  "2A049,2A050,2A051,2A052,2A053,2A054,2A055,2A056,2A057,2A058,2A059,2A060,2A061,2A062,2A063",
  "2A064,2A065,2A066,2A066A,2A066B,2A066C,2A067,2A068,2A069,2A070,2A071,2A072,2A073,2A074,2A075",
  "2A076,2A077,2A078,2A079,2A080,2A081,2A082,2A083,2A084,2A085,2A086,2A087,2A088,2A089,2A090",
  "2A091,2A092,2A093,2A094,2A095,2A096,2A097,2A097A,2A098,2A098A,2A099,2A100,2A100A,2A101,2A101A",
  "2A102,2A102A,2A103,2A104,2A104A,2A104B,2A104C,2A105,2A105A,2A105B,2A106,2A107,2A107A,2A107B",
  "2A107C,2A108,2A109,2A110,2A110A,2A110B,2A111,2A112,2A113,2A114,2A115,2A115A,2A116,2A117,2A118",
  "2A119,2A120,2A121,2A122,2A123,2A124,2A125,2A125A,2A126,2A127,2A128,2A129,2A130,2A131,2A132",
  "2A133,2A134,2A135,2A135A,2A136,2A137,2A138,2A139,2A140,2A141,2A142,2A143,2A144,2A145,2A146",
  "2A147,2A148,2A149,2A150,2A151,2A152,2A153,2A154,2A155,2A156,2A157,2A158,2A159,2A160,2A161",
  "2A162,2A163,2A164,2A165,2A166,2A167,2A168,2A169,2A170,2A171,2A172,2A173,2A174,2A175,2A176",
  "2A177,2A178,2A179,2A180,2A181,2A182,2A183,2A184,2A185,2A186,2A187,2A188,2A189,2A190,2A191",
  "2A192,2A193,2A194,2A195,2A196,2A197,2A198,2A199,2A200,2A201,2A202,2A202A,2A202B,2A203,2A204",
  "2A205,2A206,2A207,2A207A,2A208,2A209,2A209A,2A210,2A211,2A212,2A213,2A214,2A215,2A215A,2A216",
  "2A216A,2A217,2A218,2A219,2A220,2A221,2A222,2A223,2A224,2A225,2A226,2A227,2A227A,2A228,2A229",
  "2A230,2A231,2A232,2A233,2A234,2A235,2A236,2A237,2A238,2A239,2A240,2A241,2A242,2A243,2A244",
  "2A245,2A246,2A247,2A248,2A249,2A250,2A251,2A252,2A253,2A254,2A255,2A256,2A257,2A258,2A259",
  "2A260,2A261,2A262,2A263,2A264,2A265,2A266,2A267,2A267A,2A268,2A269,2A270,2A271,2A272,2A273",
  "2A274,2A275,2A276,2A277,2A278,2A279,2A280,2A281,2A282,2A283,2A284,2A285,2A286,2A287,2A288",
  "2A289,2A289A,2A290,2A291,2A292,2A293,2A294,2A294A,2A295,2A296,2A297,2A298,2A299,2A299A,2A300",
  "2A301,2A302,2A303,2A304,2A305,2A306,2A307,2A308,2A309,2A309A,2A310,2A311,2A312,2A313,2A314",
  "2A315,2A316,2A317,2A318,2A319,2A320,2A321,2A322,2A323,2A324,2A325,2A326,2A327,2A328,2A329",
  "2A329A,2A330,2A331,2A332A,2A332B,2A332C,2A333,2A334,2A335,2A336,2A336A,2A336B,2A336C,2A337",
  "2A338,2A339,2A340,2A341,2A342,2A343,2A344,2A345,2A346,2A347,2A348,2A349,2A350,2A351,2A352",
  "2A353,2A354,2A355,2A356,2A357,2A358,2A359,2A359A,2A360,2A361,2A362,2A363,2A364,2A364A,2A365",
  "2A366,2A367,2A368,2A368A,2A369,2A370,2A371,2A371A,2A372,2A373,2A374,2A375,2A376,2A377,2A378",
  "2A379,2A380,2A381,2A381A,2A382,2A383 RA OR RI,2A383A,2A384,2A385,2A386,2A386A,2A387,2A388",
  "2A389,2A390,2A391,2A392,2A393 br,2A394,2A395,2A396,2A397,2A398,2A399,2A400,2A401,2A402,2A403",
  "2A404,2A405,2A406,2A407,2A408,2A409,2A410 BEGIN yv bj,2A410A yh yv bj,2A411,2A412,2A413,2A414",
  "2A415,2A416,2A417,2A418,2A419,2A420,2A421,2A422,2A423,2A424,2A425,2A426,2A427,2A428,2A429",
  "2A430,2A431,2A432,2A433,2A434,2A435,2A436,2A437,2A438,2A439,2A440,2A441,2A442,2A443,2A444",
  "2A445,2A446,2A447,2A448,2A449,2A450,2A450A,2A451,2A452,2A453,2A454,2A455,2A456,2A457,2A457A",
  "2A458,2A459,2A460,2A461,2A462,2A463,2A464,2A465,2A466,2A467,2A468,2A469,2A470,2A471,2A472",
  "2A473,2A474,2A475,2A476,2A477,2A478,2A479,2A480,2A481,2A482,2A483,2A484,2A485,2A486,2A487",
  "2A488,2A489,2A490,2A491,2A492,2A493,2A494,2A495,2A496,2A497,2A501,2A502,2A503,2A504,2A505",
  "2A506,2A507,2A508,2A509,2A510,2A511,2A512,2A513,2A514,2A515,2A516,2A517,2A518,2A519,2A520",
  "2A521,2A522,2A523,2A524,2A525,2A526,2A527,2A528,2A529,2A530",
  "16800=0BAMUM aa PHASE-A NGKUE MFON,3GBIEE FON,3PON MFON PIPAEMGBIEE,5PIPAEMBA,3NAA MFON",
  "3SHUENSHUET,3TITA MFON,3NZA MFON,3SHINDA PA NJI,3PON PA NJI PIPAEMGBIEE,6PIPAEMBA,3MAEMBGBIEE",
  "3TU MAEMBA,3NGANGU,3MAEMVEUX,3MANSUAE,3MVEUAENGAM,3SEUNYAM,3NTOQPEN,3KEUKEUTNDA,3NKINDI,3SUU",
  "3NGKUENZEUM,3LAPAQ,3LET KUT,3NTAP MFAA,3MAEKEUP,3PASHAE,3GHEUAERAE,3PAMSHAE,3MON NGGEUAET",
  "3NZUN MEUT,3U YUQ NAE,3GHEUAEGHEUAE,3NTAP NTAA,3SISA,3MGBASA,3MEUNJOMNDEUQ,3MOOMPUQ,3KAFA",
  "3PA LEERAEWA,3NDA LEERAEWA,3PET,3MAEMKPEN,3NIKA,3PUP,3TUAEP,3LUAEP,3SONJAM,3TEUTEUWEN,3MAENYI",
  "3KET,3NDAANGGEUAET,3KUOQ,3MOOMEUT,3SHUM,3LOMMAE,3FIRI,3ROM,3KPOQ,3SOQ,3MAP PIEET,3SHIRAE",
  "3NTAP,3SHOQ NSHUT YUM,3NYIT MONGKEUAEQ,3PAARAE,3NKAARAE,3UNKNOWN,3NGGEN,3MAESI,3NJAM,3MBANYI",
  "3NYET,3TEUAEN,3SOT,3PAAM,3NSHIEE,3MAEM,3NYI,3KAQ,3NSHA,3VEE,3LU,3NEN,3NAQ,3MBAQ",
  "2PHASE-B NSHUET,3TU MAEMGBIEE,3SIEE,3SET TU,3LOM NTEUM,3MBA MAELEE,3KIEEM,3YEURAE,3MBAARAE",
  "3KAM,3PEESHI,3YAFU LEERAEWA,3tt NSHUT NYAM,3NTIEE SHEUOQ,3NDU NJAA,3GHEUGHEUAEM,3PIT",
  "3TU NSIEE,3SHET NJAQ,3SHEUAEQTU,3MFON TEUAEQ,3MBIT MBAAKET,3NYI NTEUM,3KEUPUQ,3GHEUGHEN",
  "3KEUYEUX,3LAANAE,3PARUM,3VEUM,3NGKINDI MVOP,3NGGEU MBU,3WUAET,3SAKEUAE,3TAAM,3MEUQ,3NGGUOQ",
  "4ee,3MFIYAQ,3SUE,3MBEURI,3MONTIEEN,3NYAEMAE,3PUNGAAM,3MEUT NGGEET,3FEUX,3MBUOQ,3FEE,3KEUAEM",
  "3MA NJEUAENA,4NJUQA,3LET,3NGGAAM,3NSEN,3MA,3KIQ,3NGOM,2PHASE-C NGKUE MAEMBA,3NZA,3YUM",
  "3WANGKUOQ,3NGGEN,3NDEUAEREE,3NGKAQ,3GHARAE,3MBEEKEET,3GBAYI,3NYIR MKPARAQ MEUN,3NTU MBIT",
  "3MBEUM,3PIRIEEN,3NDOMBU,3MBAA CABBAGE-TREE,3KEUSHEUAEP,3GHAP,3KEUKAQ,3YU MUOMAE,3NZEUM,3MBUE",
  "3NSEUAEN,3MBIT,3YEUQ,3KPARAQ,3KAA,3SEUX,3NDIDA,3TAASHAE,3NJUEQ,3TITA YUE,3SUAET,3NGGUAEN NYAM",
  "3VEUX,3NANSANAQ,3MA KEUAERI,3NTAA,3NGGUON,3LAP,3MBIRIEEN,3MGBASAQ,3NTEUNGBA,3TEUTEUX,3NGGUM",
  "3FUE,3NDEUT,3NSA,3NSHAQ,3BUNG,3VEUAEPEN,3MBERAE,3RU,3NJAEM,3tt,3TITUAEP,3NSUOT NGOM,3NJEEEE",
  "3KET,3NGGU,3MAESI,3MBUAEM,3LU,3KUT,3NJAM,3NGOM,3WUP,3NGGUEET,3NSOM,3NTEN,3KUOP NKAARAE,3NSUN",
  "3NDAM,3MA NSIEE,3YAA,3NDAP,3SHUEQ,3SETFON,3MBI,3MAEMBA,3MBANYI,3KEUSEUX,3MBEUX,3KEUM",
  "3MBAA PICKET,3YUWOQ,3NJEUX,3MIEE,3MUAE,3SHIQ,3KEN LAW,4FATIGUE,3NGAQ,3NAQ,3LIQ,3PIN,3PEN,3TET",
  "2PHASE-D MBUO,3WAP,3NJI,3MFON,3NJIEE,3LIEE,3NJEUT,3NSHEE,3NGGAAMAE,3NYAM,3WUAEN,3NGKUN,3SHEE",
  "3NGKAP,3KEUAETMEUN,3TEUT,3SHEUAE,3NJAP,3SUE,3KET,3YAEMMAE,3KUOM,3SAP,3MFEUT,3NDEUX,3MALEERI",
  "3MEUT,3SEUAEQ,3YEN,3NJEUAEM,3KEUOT MBUAE,3NGKEURI,3TU,3GHAA,3NGKYEE,3FEUFEUAET,3NDEE,3MGBOFUM",
  "3LEUAEP,3NDON,3MONI,3MGBEUN,3PUUT,3MGBIEE,3MFO,3LUM,3NSIEEP,3MBAA,3KWAET,3NYET,3TEUAEN,3SOT",
  "3YUWOQ,3KEUM,3RAEM,3TEEEE,3NGKEUAEQ,3MFEUAE,3NSIEET,3KEUP,3PIP,3PEUTAE,3NYUE,3LET,3NGGAAM",
  "3MFIEE,3NGGWAEN,3YUOM,3PAP,3YUOP,3NDAM,3NTEUM,3SUAE,3KUN,3NGGEUX,3NGKIEE,3TUOT,3MEUN,3KUQ",
  "3NSUM,3TEUN,3MAENJET,3NGGAP,3LEUM,3NGGUOM,3NSHUT,3NJUEQ,3GHEUAE,3KU,3REN oh,3TAE,3TOQ,3NYI",
  "3RII,3LEEEE,3MEEEE,3M,3SUU,3MU,3SHII,3SHEUX,3KYEE,3NU,3SHU,3NTEE,3PEE,3NI,3SHOQ,3PUQ,3MVOP",
  "3LOQ,3REN MUCH,3TI,3NTUU,3MBAA bv,3SAQ,3FAA,2PHASE-E NDAP,3TOON,3MBEUM,3LAP,3VOM,3LOON,3PAA",
  "3SOM,3RAQ,3NSHUOP,3NDUN,3PUAE,3TAM,3NGKA,3KPEUX,3WUO,3SEE,3NGGEUAET,3PAAM,3TOO,3KUOP,3LOM",
  "3NSHIEE,3NGOP,3MAEM,3NGKEUX,3NGOQ,3NSHUE,3RIMGBA,3NJEUX,3PEEM,3SAA,3NGGURAE,3MGBA,3GHEUX",
  "3NGKEUAEM,3NJAEMLI,3MAP,3LOOT,3NGGEEEE,3NDIQ,3TAEN NTEUM,3SET,3PUM,3NDAA SOFTNESS",
  "3NGGUAESHAE NYAM,3YIEE,3GHEUN,3TUAE,3YEUAE,3PO,3TUMAE,3KEUAE,3SUAEN,3TEUAEQ,3VEUAE,3WEUX",
  "3LAAM,3PU,3TAAQ,3GHAAMAE,3NGEUREUT,3SHEUAEQ,3MGBEN,3MBEE,3NZAQ,3NKOM,3GBET,3TUM,3KUET,3YAP",
  "3NYI CLEAVER,3YIT,3MFEUQ,3NDIAQ,3PIEEQ,3YUEQ,3LEUAEM,3FUE,3GBEUX,3NGKUP,3KET,3MAE,3NGKAAMI",
  "3GHET,3FA,3NTUM,3PEUT,3YEUM,3NGGEUAE,3NYI jn,3NZUQ,3POON,3MIEE,3FUET,3NAE,3MUAE,3GHEUAE,3FU I",
  "3MVI,3PUAQ,3NGKUM,3KUT,3PIET,3NTAP,3YEUAET,3NGGUP,3PA PEOPLE,3FU CALL,3FOM,3NJEE,3A,3TOQ,3O",
  "3I,3LAQ,3PA PLURAL,3TAA,3TAQ,3NDAA MY HOUSE,3SHIQ,3YEUX,3NGUAE,3YUAEN,3YOQ SWIMMING,4COVER",
  "3YUQ,3YUN,3KEUX,3PEUX,3NJEE EPOCH,3PUE,3WUE,3FEE,3VEE,3LU,3MI,3REUX,3RAE,3NGUAET,3kp,3SHO",
  "3SHOQ,3FU REMEDY,3NA,3PI,3LOQ,3KO,3MEN,3MA,3MAQ,3TEU,3KI,3MON,3jx,3FAQ,3GHOM,2PHASE-F KA,3U",
  "3KU,3EE,3REE,3TAE,3NYI,3LA,3RII,3RIEE,3MEEEE,3TAA,3NDAA,3NJAEM,3M,3SUU,3SHII,3SI,3SEUX,3KYEE",
  "3KET,3NUAE,3NU,3NJUAE,3YOQ,3SHU,3YA,3NSHA,3PEUX,3NTEE,3WUE,3PEE,3RU,3NI,3REUX,3KEN,3NGKWAEN",
  "3NGGA,3SHO,3PUAE,3FOM,3WA,3LI,3LOQ,3KO,3MBEN,3REN,3MA,3MO,3MBAA,3TET,3KPA,3SAMBA,3VUEQ",
  "16a40=0MRO aa TA,2NGI,2YO,2MIM,2BA,2DA,2A,2PHI,2KHAI,2HAO,2DAI,2CHU,2KEAAE,2OL,2MAEM,2NIN,2PA",
  "2OO,2O,2RO,2SHI,2THEA,2EA,2WA,2E,2KO,2LAN,2LA,2HAI,2RI,2TEK,16a60=1cr ex,2cs,2co,2aw,2bt,2by",
  "2fx,2bv,2br,2dm,16a6e=1jc,1al jc,0TANGSA aa OZ,2OC,2OQ,2OX,2AZ,2AC,2AQ,2AX,2VZ,2VC,2VQ,2VX",
  "2EZ,2EC,2EQ,2EX,2IZ,2IC,2IQ,2IX,2UZ,2UC,2UQ,2UX,2AWZ,2AWC,2AWQ,2AWX,2UIZ,2UIC,2UIQ,2UIX",
  "2ar NG,2fk UEX,2fu UEZ,3AWX,2UEC,2UEZ,2UEQ,2UEX,2UIUZ,2UIUC,2UIUQ,2UIUX,2MZ,2MC,2MQ,2MX,2KA",
  "2lo,2GA,2kp,2SA,2YA,2WA,2PA,2lj,2nx,2BA,2MA,2NA,2HA,2LA,2HTA,2TA,2DA,2RA,2NHA,2kt,2CA,2zq,2qq",
  "2HTTA,2mh,2XA,2FA,2po,2lg,2ZA,16ac0=1cr ex,2cs,2co,2aw,2bt,2by,2fx,2bv,2br,2dm",
  "16ad0=0BASSA VAH aa ENNI,3KA,3SE,3FA,3MBE,3YIE,3GAH,3DHII,3KPAH,3JO,3HWAH,3WA,3ZO,3GBU,3DO",
  "3CE,3UWU,3TO,3BA,3VU,3YEIN,3PA,3WADDA,3A,3O,3OO,3U,3EE,3E,3I,16af0=2dj fz fo,3is fo,3MID fo",
  "3LOW-MID fo,3HIGH-LOW fo,2if gd,16b00=0PAHAWH HMONG cm KEEB,3KEEV,3KIB,3KIV,3KAUB,3KAUV,3KUB",
  "3KUV,3KEB,3KEV,3KAIB,3KAIV,3KOOB,3KOOV,3KAWB,3KAWV,3KUAB,3KUAV,3KOB,3KOV,3KIAB,3KIAV,3KAB",
  "3KAV,3KWB,3KWV,3KAAB,3KAAV,2fq VAU,3NTSAU,3LAU,3HAU,3NLAU,3RAU,3NKAU,3QHAU,3YAU,3HLAU,3MAU",
  "3CHAU,3NCHAU,3HNAU,3PLHAU,3NTHAU,3NAU,3AU,3XAU,3CAU,2bj CIM TUB,4SO,4KES,4KHAV,4SUAM,4HOM",
  "4TAUM,2ak VOS THOM,4TSHAB CEEB,3CIM CHEEM,3VOS THIAB,4FEEM,3XYEEM NTXIV,4RHO,4TOV,4FAIB",
  "3VOS SEEV,3MEEJ SUAB,3VOS NRUA,3IB YAM,3XAUS,3CIM TSOV ROG,16b50=2cr ex,3cs,3co,3aw,3bt,3by",
  "3fx,3bv,3br,3dm,16b5b=2dq TENS,3HUNDREDS,3jx nn,3rw,3az rw,3jx BILLIONS,3TRILLIONS",
  "16b63=2ak VOS LUB,3XYOO,3HLI,3THIRD-STAGE HLI,3ZWJ THAJ,3HNUB,3NQIG,3XIAB,3NTUJ,3AV",
  "3TXHEEJ CEEV,3MEEJ TSEEB,3TAU,3LOS,3MUS,3CIM HAIS LUS NTOG NTOG,4CUAM TSHOOJ,4TXWV,5CHWV",
  "4PUB DAWB,4NRES TOS,16b7d=2CLAN ak TSHEEJ,4YEEG,4LIS,4LAUJ,4XYOOJ,4KOO,4HAWJ,4MUAS,4THOJ",
  "4TSAB,4PHAB,4KHAB,4HAM,4VAJ,4FAJ,4YAJ,4TSWB,4KWM,4VWJ,16e40=0MEDEFAIDRIN ac aa M,3S,3V,3W",
  "3ATIU,3Z,3KP,3P,3T,3G,3F,3I,3K,3A,3J,3E,3B,3C,3U,3YU,3L,3Q,3HP,3NY,3X,3D,3OE,3N,3R,3O,3AI,3Y",
  "1ad aa M,3S,3V,3W,3ATIU,3Z,3KP,3P,3T,3G,3F,3I,3K,3A,3J,3E,3B,3C,3U,3YU,3L,3Q,3HP,3NY,3X,3D",
  "3OE,3N,3R,3O,3AI,3Y,1cr ex,2cs,2co,2aw,2bt,2by,2fx,2bv,2br,2dm,1dq jx,2pr,2np,2qo,2pv,2nv,2pd",
  "2nl,2ob,2qc,1cr cs fp af,2co fp af,2aw fp af,1et,1if gd,1au AIVA,1dw OH,16f00=0MIAO aa PA,2BA",
  "2YI PA,2PLA,2MA,2MHA,2iv MA,2FA,2VA,2VFA,2TA,2DA,2YI pf,3TA,2pf,2ph,2NA,2NHA,2YI qz,2iv NA",
  "2qz,2NNHA,2LA,2LYA,2LHA,2LHYA,2TLHA,2DLHA,2TLHYA,2DLHYA,2KA,2GA,2YI KA,2QA,2QGA,2kp,2NGHA",
  "2iv kp,2HA,2XA,2qq,2GHHA,2TSSA,2DZZA,2lj,2NYHA,2zr,2DZHA,2YI zr,3DZHA,2REFORMED zr,2kt,2ta",
  "2ZHA,2ZSHA,2zq,2DZA,2YI zq,2SA,2ZA,2ZSA,2ZZA,2ZZSA,2iv ZZA,2ZZYA,2ZZSYA,2WA,2AH,2HHA,2BRI",
  "2SYI,2DZYI,2TE,2TSE,2RTE,16f4f=1ak fq ev ge,1aa yy,1ak ASPIRATION,2REFORMED VOICING",
  "3ASPIRATION,1cm ak A,3AA,3AHH,3AN,3ANG,3O,3OO,3WO,3W,3E,3EN,3ENG,3OEY,3I,3IA,3IAN,3IANG,3IO",
  "3IE,3II,3IU,3ING,3U,3UA,3UAN,3UANG,3UU,3UEI,3UNG,3Y,3YI,3AE,3AEE,3ERR,3pc ERR,3ER,3pc ER,3AI",
  "3EI,3AU,3OU,3N,3NG,3UOG,3YUI,3OG,3OER,3VW,3IG,3EA,3IONG,3UI,16f8f=1fo ai,2sb ai,2aj,2aq",
  "1aa te,2vi,2TONE-4,2tf,2TONE-6,2TONE-7,2TONE-8,2REFORMED TONE-1,3te,3TONE-4,3tf,3TONE-6",
  "3TONE-8,16fe0=0TANGUT mb bj,0NUSHU mb bj,0oh CHINESE bw bj,2mb bj,0KHITAN ad it ue",
  "16ff0=0VIETNAMESE fp READING bj CA,4NHAY,18800=0TANGUT COMPONENT-001,1COMPONENT-002",
  "1COMPONENT-003,1COMPONENT-004,1COMPONENT-005,1COMPONENT-006,1COMPONENT-007,1COMPONENT-008",
  "1COMPONENT-009,1COMPONENT-010,1COMPONENT-011,1COMPONENT-012,1COMPONENT-013,1COMPONENT-014",
  "1COMPONENT-015,1COMPONENT-016,1COMPONENT-017,1COMPONENT-018,1COMPONENT-019,1COMPONENT-020",
  "1COMPONENT-021,1COMPONENT-022,1COMPONENT-023,1COMPONENT-024,1COMPONENT-025,1COMPONENT-026",
  "1COMPONENT-027,1COMPONENT-028,1COMPONENT-029,1COMPONENT-030,1COMPONENT-031,1COMPONENT-032",
  "1COMPONENT-033,1COMPONENT-034,1COMPONENT-035,1COMPONENT-036,1COMPONENT-037,1COMPONENT-038",
  "1COMPONENT-039,1COMPONENT-040,1COMPONENT-041,1COMPONENT-042,1COMPONENT-043,1COMPONENT-044",
  "1COMPONENT-045,1COMPONENT-046,1COMPONENT-047,1COMPONENT-048,1COMPONENT-049,1COMPONENT-050",
  "1COMPONENT-051,1COMPONENT-052,1COMPONENT-053,1COMPONENT-054,1COMPONENT-055,1COMPONENT-056",
  "1COMPONENT-057,1COMPONENT-058,1COMPONENT-059,1COMPONENT-060,1COMPONENT-061,1COMPONENT-062",
  "1COMPONENT-063,1COMPONENT-064,1COMPONENT-065,1COMPONENT-066,1COMPONENT-067,1COMPONENT-068",
  "1COMPONENT-069,1COMPONENT-070,1COMPONENT-071,1COMPONENT-072,1COMPONENT-073,1COMPONENT-074",
  "1COMPONENT-075,1COMPONENT-076,1COMPONENT-077,1COMPONENT-078,1COMPONENT-079,1COMPONENT-080",
  "1COMPONENT-081,1COMPONENT-082,1COMPONENT-083,1COMPONENT-084,1COMPONENT-085,1COMPONENT-086",
  "1COMPONENT-087,1COMPONENT-088,1COMPONENT-089,1COMPONENT-090,1COMPONENT-091,1COMPONENT-092",
  "1COMPONENT-093,1COMPONENT-094,1COMPONENT-095,1COMPONENT-096,1COMPONENT-097,1COMPONENT-098",
  "1COMPONENT-099,1COMPONENT-100,1COMPONENT-101,1COMPONENT-102,1COMPONENT-103,1COMPONENT-104",
  "1COMPONENT-105,1COMPONENT-106,1COMPONENT-107,1COMPONENT-108,1COMPONENT-109,1COMPONENT-110",
  "1COMPONENT-111,1COMPONENT-112,1COMPONENT-113,1COMPONENT-114,1COMPONENT-115,1COMPONENT-116",
  "1COMPONENT-117,1COMPONENT-118,1COMPONENT-119,1COMPONENT-120,1COMPONENT-121,1COMPONENT-122",
  "1COMPONENT-123,1COMPONENT-124,1COMPONENT-125,1COMPONENT-126,1COMPONENT-127,1COMPONENT-128",
  "1COMPONENT-129,1COMPONENT-130,1COMPONENT-131,1COMPONENT-132,1COMPONENT-133,1COMPONENT-134",
  "1COMPONENT-135,1COMPONENT-136,1COMPONENT-137,1COMPONENT-138,1COMPONENT-139,1COMPONENT-140",
  "1COMPONENT-141,1COMPONENT-142,1COMPONENT-143,1COMPONENT-144,1COMPONENT-145,1COMPONENT-146",
  "1COMPONENT-147,1COMPONENT-148,1COMPONENT-149,1COMPONENT-150,1COMPONENT-151,1COMPONENT-152",
  "1COMPONENT-153,1COMPONENT-154,1COMPONENT-155,1COMPONENT-156,1COMPONENT-157,1COMPONENT-158",
  "1COMPONENT-159,1COMPONENT-160,1COMPONENT-161,1COMPONENT-162,1COMPONENT-163,1COMPONENT-164",
  "1COMPONENT-165,1COMPONENT-166,1COMPONENT-167,1COMPONENT-168,1COMPONENT-169,1COMPONENT-170",
  "1COMPONENT-171,1COMPONENT-172,1COMPONENT-173,1COMPONENT-174,1COMPONENT-175,1COMPONENT-176",
  "1COMPONENT-177,1COMPONENT-178,1COMPONENT-179,1COMPONENT-180,1COMPONENT-181,1COMPONENT-182",
  "1COMPONENT-183,1COMPONENT-184,1COMPONENT-185,1COMPONENT-186,1COMPONENT-187,1COMPONENT-188",
  "1COMPONENT-189,1COMPONENT-190,1COMPONENT-191,1COMPONENT-192,1COMPONENT-193,1COMPONENT-194",
  "1COMPONENT-195,1COMPONENT-196,1COMPONENT-197,1COMPONENT-198,1COMPONENT-199,1COMPONENT-200",
  "1COMPONENT-201,1COMPONENT-202,1COMPONENT-203,1COMPONENT-204,1COMPONENT-205,1COMPONENT-206",
  "1COMPONENT-207,1COMPONENT-208,1COMPONENT-209,1COMPONENT-210,1COMPONENT-211,1COMPONENT-212",
  "1COMPONENT-213,1COMPONENT-214,1COMPONENT-215,1COMPONENT-216,1COMPONENT-217,1COMPONENT-218",
  "1COMPONENT-219,1COMPONENT-220,1COMPONENT-221,1COMPONENT-222,1COMPONENT-223,1COMPONENT-224",
  "1COMPONENT-225,1COMPONENT-226,1COMPONENT-227,1COMPONENT-228,1COMPONENT-229,1COMPONENT-230",
  "1COMPONENT-231,1COMPONENT-232,1COMPONENT-233,1COMPONENT-234,1COMPONENT-235,1COMPONENT-236",
  "1COMPONENT-237,1COMPONENT-238,1COMPONENT-239,1COMPONENT-240,1COMPONENT-241,1COMPONENT-242",
  "1COMPONENT-243,1COMPONENT-244,1COMPONENT-245,1COMPONENT-246,1COMPONENT-247,1COMPONENT-248",
  "1COMPONENT-249,1COMPONENT-250,1COMPONENT-251,1COMPONENT-252,1COMPONENT-253,1COMPONENT-254",
  "1COMPONENT-255,1COMPONENT-256,1COMPONENT-257,1COMPONENT-258,1COMPONENT-259,1COMPONENT-260",
  "1COMPONENT-261,1COMPONENT-262,1COMPONENT-263,1COMPONENT-264,1COMPONENT-265,1COMPONENT-266",
  "1COMPONENT-267,1COMPONENT-268,1COMPONENT-269,1COMPONENT-270,1COMPONENT-271,1COMPONENT-272",
  "1COMPONENT-273,1COMPONENT-274,1COMPONENT-275,1COMPONENT-276,1COMPONENT-277,1COMPONENT-278",
  "1COMPONENT-279,1COMPONENT-280,1COMPONENT-281,1COMPONENT-282,1COMPONENT-283,1COMPONENT-284",
  "1COMPONENT-285,1COMPONENT-286,1COMPONENT-287,1COMPONENT-288,1COMPONENT-289,1COMPONENT-290",
  "1COMPONENT-291,1COMPONENT-292,1COMPONENT-293,1COMPONENT-294,1COMPONENT-295,1COMPONENT-296",
  "1COMPONENT-297,1COMPONENT-298,1COMPONENT-299,1COMPONENT-300,1COMPONENT-301,1COMPONENT-302",
  "1COMPONENT-303,1COMPONENT-304,1COMPONENT-305,1COMPONENT-306,1COMPONENT-307,1COMPONENT-308",
  "1COMPONENT-309,1COMPONENT-310,1COMPONENT-311,1COMPONENT-312,1COMPONENT-313,1COMPONENT-314",
  "1COMPONENT-315,1COMPONENT-316,1COMPONENT-317,1COMPONENT-318,1COMPONENT-319,1COMPONENT-320",
  "1COMPONENT-321,1COMPONENT-322,1COMPONENT-323,1COMPONENT-324,1COMPONENT-325,1COMPONENT-326",
  "1COMPONENT-327,1COMPONENT-328,1COMPONENT-329,1COMPONENT-330,1COMPONENT-331,1COMPONENT-332",
  "1COMPONENT-333,1COMPONENT-334,1COMPONENT-335,1COMPONENT-336,1COMPONENT-337,1COMPONENT-338",
  "1COMPONENT-339,1COMPONENT-340,1COMPONENT-341,1COMPONENT-342,1COMPONENT-343,1COMPONENT-344",
  "1COMPONENT-345,1COMPONENT-346,1COMPONENT-347,1COMPONENT-348,1COMPONENT-349,1COMPONENT-350",
  "1COMPONENT-351,1COMPONENT-352,1COMPONENT-353,1COMPONENT-354,1COMPONENT-355,1COMPONENT-356",
  "1COMPONENT-357,1COMPONENT-358,1COMPONENT-359,1COMPONENT-360,1COMPONENT-361,1COMPONENT-362",
  "1COMPONENT-363,1COMPONENT-364,1COMPONENT-365,1COMPONENT-366,1COMPONENT-367,1COMPONENT-368",
  "1COMPONENT-369,1COMPONENT-370,1COMPONENT-371,1COMPONENT-372,1COMPONENT-373,1COMPONENT-374",
  "1COMPONENT-375,1COMPONENT-376,1COMPONENT-377,1COMPONENT-378,1COMPONENT-379,1COMPONENT-380",
  "1COMPONENT-381,1COMPONENT-382,1COMPONENT-383,1COMPONENT-384,1COMPONENT-385,1COMPONENT-386",
  "1COMPONENT-387,1COMPONENT-388,1COMPONENT-389,1COMPONENT-390,1COMPONENT-391,1COMPONENT-392",
  "1COMPONENT-393,1COMPONENT-394,1COMPONENT-395,1COMPONENT-396,1COMPONENT-397,1COMPONENT-398",
  "1COMPONENT-399,1COMPONENT-400,1COMPONENT-401,1COMPONENT-402,1COMPONENT-403,1COMPONENT-404",
  "1COMPONENT-405,1COMPONENT-406,1COMPONENT-407,1COMPONENT-408,1COMPONENT-409,1COMPONENT-410",
  "1COMPONENT-411,1COMPONENT-412,1COMPONENT-413,1COMPONENT-414,1COMPONENT-415,1COMPONENT-416",
  "1COMPONENT-417,1COMPONENT-418,1COMPONENT-419,1COMPONENT-420,1COMPONENT-421,1COMPONENT-422",
  "1COMPONENT-423,1COMPONENT-424,1COMPONENT-425,1COMPONENT-426,1COMPONENT-427,1COMPONENT-428",
  "1COMPONENT-429,1COMPONENT-430,1COMPONENT-431,1COMPONENT-432,1COMPONENT-433,1COMPONENT-434",
  "1COMPONENT-435,1COMPONENT-436,1COMPONENT-437,1COMPONENT-438,1COMPONENT-439,1COMPONENT-440",
  "1COMPONENT-441,1COMPONENT-442,1COMPONENT-443,1COMPONENT-444,1COMPONENT-445,1COMPONENT-446",
  "1COMPONENT-447,1COMPONENT-448,1COMPONENT-449,1COMPONENT-450,1COMPONENT-451,1COMPONENT-452",
  "1COMPONENT-453,1COMPONENT-454,1COMPONENT-455,1COMPONENT-456,1COMPONENT-457,1COMPONENT-458",
  "1COMPONENT-459,1COMPONENT-460,1COMPONENT-461,1COMPONENT-462,1COMPONENT-463,1COMPONENT-464",
  "1COMPONENT-465,1COMPONENT-466,1COMPONENT-467,1COMPONENT-468,1COMPONENT-469,1COMPONENT-470",
  "1COMPONENT-471,1COMPONENT-472,1COMPONENT-473,1COMPONENT-474,1COMPONENT-475,1COMPONENT-476",
  "1COMPONENT-477,1COMPONENT-478,1COMPONENT-479,1COMPONENT-480,1COMPONENT-481,1COMPONENT-482",
  "1COMPONENT-483,1COMPONENT-484,1COMPONENT-485,1COMPONENT-486,1COMPONENT-487,1COMPONENT-488",
  "1COMPONENT-489,1COMPONENT-490,1COMPONENT-491,1COMPONENT-492,1COMPONENT-493,1COMPONENT-494",
  "1COMPONENT-495,1COMPONENT-496,1COMPONENT-497,1COMPONENT-498,1COMPONENT-499,1COMPONENT-500",
  "1COMPONENT-501,1COMPONENT-502,1COMPONENT-503,1COMPONENT-504,1COMPONENT-505,1COMPONENT-506",
  "1COMPONENT-507,1COMPONENT-508,1COMPONENT-509,1COMPONENT-510,1COMPONENT-511,1COMPONENT-512",
  "1COMPONENT-513,1COMPONENT-514,1COMPONENT-515,1COMPONENT-516,1COMPONENT-517,1COMPONENT-518",
  "1COMPONENT-519,1COMPONENT-520,1COMPONENT-521,1COMPONENT-522,1COMPONENT-523,1COMPONENT-524",
  "1COMPONENT-525,1COMPONENT-526,1COMPONENT-527,1COMPONENT-528,1COMPONENT-529,1COMPONENT-530",
  "1COMPONENT-531,1COMPONENT-532,1COMPONENT-533,1COMPONENT-534,1COMPONENT-535,1COMPONENT-536",
  "1COMPONENT-537,1COMPONENT-538,1COMPONENT-539,1COMPONENT-540,1COMPONENT-541,1COMPONENT-542",
  "1COMPONENT-543,1COMPONENT-544,1COMPONENT-545,1COMPONENT-546,1COMPONENT-547,1COMPONENT-548",
  "1COMPONENT-549,1COMPONENT-550,1COMPONENT-551,1COMPONENT-552,1COMPONENT-553,1COMPONENT-554",
  "1COMPONENT-555,1COMPONENT-556,1COMPONENT-557,1COMPONENT-558,1COMPONENT-559,1COMPONENT-560",
  "1COMPONENT-561,1COMPONENT-562,1COMPONENT-563,1COMPONENT-564,1COMPONENT-565,1COMPONENT-566",
  "1COMPONENT-567,1COMPONENT-568,1COMPONENT-569,1COMPONENT-570,1COMPONENT-571,1COMPONENT-572",
  "1COMPONENT-573,1COMPONENT-574,1COMPONENT-575,1COMPONENT-576,1COMPONENT-577,1COMPONENT-578",
  "1COMPONENT-579,1COMPONENT-580,1COMPONENT-581,1COMPONENT-582,1COMPONENT-583,1COMPONENT-584",
  "1COMPONENT-585,1COMPONENT-586,1COMPONENT-587,1COMPONENT-588,1COMPONENT-589,1COMPONENT-590",
  "1COMPONENT-591,1COMPONENT-592,1COMPONENT-593,1COMPONENT-594,1COMPONENT-595,1COMPONENT-596",
  "1COMPONENT-597,1COMPONENT-598,1COMPONENT-599,1COMPONENT-600,1COMPONENT-601,1COMPONENT-602",
  "1COMPONENT-603,1COMPONENT-604,1COMPONENT-605,1COMPONENT-606,1COMPONENT-607,1COMPONENT-608",
  "1COMPONENT-609,1COMPONENT-610,1COMPONENT-611,1COMPONENT-612,1COMPONENT-613,1COMPONENT-614",
  "1COMPONENT-615,1COMPONENT-616,1COMPONENT-617,1COMPONENT-618,1COMPONENT-619,1COMPONENT-620",
  "1COMPONENT-621,1COMPONENT-622,1COMPONENT-623,1COMPONENT-624,1COMPONENT-625,1COMPONENT-626",
  "1COMPONENT-627,1COMPONENT-628,1COMPONENT-629,1COMPONENT-630,1COMPONENT-631,1COMPONENT-632",
  "1COMPONENT-633,1COMPONENT-634,1COMPONENT-635,1COMPONENT-636,1COMPONENT-637,1COMPONENT-638",
  "1COMPONENT-639,1COMPONENT-640,1COMPONENT-641,1COMPONENT-642,1COMPONENT-643,1COMPONENT-644",
  "1COMPONENT-645,1COMPONENT-646,1COMPONENT-647,1COMPONENT-648,1COMPONENT-649,1COMPONENT-650",
  "1COMPONENT-651,1COMPONENT-652,1COMPONENT-653,1COMPONENT-654,1COMPONENT-655,1COMPONENT-656",
  "1COMPONENT-657,1COMPONENT-658,1COMPONENT-659,1COMPONENT-660,1COMPONENT-661,1COMPONENT-662",
  "1COMPONENT-663,1COMPONENT-664,1COMPONENT-665,1COMPONENT-666,1COMPONENT-667,1COMPONENT-668",
  "1COMPONENT-669,1COMPONENT-670,1COMPONENT-671,1COMPONENT-672,1COMPONENT-673,1COMPONENT-674",
  "1COMPONENT-675,1COMPONENT-676,1COMPONENT-677,1COMPONENT-678,1COMPONENT-679,1COMPONENT-680",
  "1COMPONENT-681,1COMPONENT-682,1COMPONENT-683,1COMPONENT-684,1COMPONENT-685,1COMPONENT-686",
  "1COMPONENT-687,1COMPONENT-688,1COMPONENT-689,1COMPONENT-690,1COMPONENT-691,1COMPONENT-692",
  "1COMPONENT-693,1COMPONENT-694,1COMPONENT-695,1COMPONENT-696,1COMPONENT-697,1COMPONENT-698",
  "1COMPONENT-699,1COMPONENT-700,1COMPONENT-701,1COMPONENT-702,1COMPONENT-703,1COMPONENT-704",
  "1COMPONENT-705,1COMPONENT-706,1COMPONENT-707,1COMPONENT-708,1COMPONENT-709,1COMPONENT-710",
  "1COMPONENT-711,1COMPONENT-712,1COMPONENT-713,1COMPONENT-714,1COMPONENT-715,1COMPONENT-716",
  "1COMPONENT-717,1COMPONENT-718,1COMPONENT-719,1COMPONENT-720,1COMPONENT-721,1COMPONENT-722",
  "1COMPONENT-723,1COMPONENT-724,1COMPONENT-725,1COMPONENT-726,1COMPONENT-727,1COMPONENT-728",
  "1COMPONENT-729,1COMPONENT-730,1COMPONENT-731,1COMPONENT-732,1COMPONENT-733,1COMPONENT-734",
  "1COMPONENT-735,1COMPONENT-736,1COMPONENT-737,1COMPONENT-738,1COMPONENT-739,1COMPONENT-740",
  "1COMPONENT-741,1COMPONENT-742,1COMPONENT-743,1COMPONENT-744,1COMPONENT-745,1COMPONENT-746",
  "1COMPONENT-747,1COMPONENT-748,1COMPONENT-749,1COMPONENT-750,1COMPONENT-751,1COMPONENT-752",
  "1COMPONENT-753,1COMPONENT-754,1COMPONENT-755,1COMPONENT-756,1COMPONENT-757,1COMPONENT-758",
  "1COMPONENT-759,1COMPONENT-760,1COMPONENT-761,1COMPONENT-762,1COMPONENT-763,1COMPONENT-764",
  "1COMPONENT-765,1COMPONENT-766,1COMPONENT-767,1COMPONENT-768,1aff0=0li aa MINNAN te,3vi",
  "3TONE-4,3tf,1aff5=3TONE-7,3TONE-8,3NASALIZED TONE-1,4te,4vi,4TONE-4,4tf,1affd=4TONE-7,4TONE-8",
  "1b000=2iv E,0uj aa iv YE,0HENTAIGANA aa A-1,2A-2,2A-3,2A-WO,2I-1,2I-2,2I-3,2I-4,2U-1,2U-2",
  "2U-3,2U-4,2U-5,2E-2,2E-3,2E-4,2E-5,2E-6,2O-1,2O-2,2O-3,2KA-1,2KA-2,2KA-3,2KA-4,2KA-5,2KA-6",
  "2KA-7,2KA-8,2KA-9,2KA-10,2KA-11,2KA-KE,2KI-1,2KI-2,2KI-3,2KI-4,2KI-5,2KI-6,2KI-7,2KI-8,2KU-1",
  "2KU-2,2KU-3,2KU-4,2KU-5,2KU-6,2KU-7,2KE-1,2KE-2,2KE-3,2KE-4,2KE-5,2KE-6,2KO-1,2KO-2,2KO-3",
  "2KO-KI,2SA-1,2SA-2,2SA-3,2SA-4,2SA-5,2SA-6,2SA-7,2SA-8,2SI-1,2SI-2,2SI-3,2SI-4,2SI-5,2SI-6",
  "2SU-1,2SU-2,2SU-3,2SU-4,2SU-5,2SU-6,2SU-7,2SU-8,2SE-1,2SE-2,2SE-3,2SE-4,2SE-5,2SO-1,2SO-2",
  "2SO-3,2SO-4,2SO-5,2SO-6,2SO-7,2TA-1,2TA-2,2TA-3,2TA-4,2TI-1,2TI-2,2TI-3,2TI-4,2TI-5,2TI-6",
  "2TI-7,2TU-1,2TU-2,2TU-3,2TU-4,2TU-TO,2TE-1,2TE-2,2TE-3,2TE-4,2TE-5,2TE-6,2TE-7,2TE-8,2TE-9",
  "2TO-1,2TO-2,2TO-3,2TO-4,2TO-5,2TO-6,2TO-RA,2NA-1,2NA-2,2NA-3,2NA-4,2NA-5,2NA-6,2NA-7,2NA-8",
  "2NA-9,2NI-1,2NI-2,2NI-3,2NI-4,2NI-5,2NI-6,2NI-7,2NI-TE,2NU-1,2NU-2,2NU-3,2NE-1,2NE-2,2NE-3",
  "2NE-4,2NE-5,2NE-6,2NE-KO,2NO-1,2NO-2,2NO-3,2NO-4,2NO-5,2HA-1,2HA-2,2HA-3,2HA-4,2HA-5,2HA-6",
  "2HA-7,2HA-8,2HA-9,2HA-10,2HA-11,2HI-1,2HI-2,2HI-3,2HI-4,2HI-5,2HI-6,2HI-7,2HU-1,2HU-2,2HU-3",
  "2HE-1,2HE-2,2HE-3,2HE-4,2HE-5,2HE-6,2HE-7,2HO-1,2HO-2,2HO-3,2HO-4,2HO-5,2HO-6,2HO-7,2HO-8",
  "2MA-1,2MA-2,2MA-3,2MA-4,2MA-5,2MA-6,2MA-7,2MI-1,2MI-2,2MI-3,2MI-4,2MI-5,2MI-6,2MI-7,2MU-1",
  "2MU-2,2MU-3,2MU-4,2ME-1,2ME-2,2ME-MA,2MO-1,2MO-2,2MO-3,2MO-4,2MO-5,2MO-6,2YA-1,2YA-2,2YA-3",
  "2YA-4,2YA-5,2YA-YO,2YU-1,2YU-2,2YU-3,2YU-4,2YO-1,2YO-2,2YO-3,2YO-4,2YO-5,2YO-6,2RA-1,2RA-2",
  "2RA-3,2RA-4,2RI-1,2RI-2,2RI-3,2RI-4,2RI-5,2RI-6,2RI-7,2RU-1,2RU-2,2RU-3,2RU-4,2RU-5,2RU-6",
  "2RE-1,2RE-2,2RE-3,2RE-4,2RO-1,2RO-2,2RO-3,2RO-4,2RO-5,2RO-6,2WA-1,2WA-2,2WA-3,2WA-4,2WA-5",
  "2WI-1,2WI-2,2WI-3,2WI-4,2WI-5,2WE-1,2WE-2,2WE-3,2WE-4,2WO-1,2WO-2,2WO-3,2WO-4,2WO-5,2WO-6",
  "2WO-7,2N-MU-MO-1,2N-MU-MO-2,0uj aa iv WU,0li aa iv YI,3YE,3WU,1b150=0uj aa ad WI,3WE,3WO",
  "1b164=0li aa ad WI,3WE,3WO,3N,1bc00=0DUPLOYAN aa H,2X,2P,2T,2F,2K,2L,2B,2D,2V,2G,2R,2P N,2D S",
  "2F N,2K M,2R S,2TH,2SLOAN DH,2DH,2KK,2SLOAN J,2HL,2LH,2RH,2M,2N,2J,2S,2M N,2N M,2J M,2S J",
  "2M ab cz,2N ab cz,2J ab cz,4du kl bi aj,2S ab cz,5aq,2M S,2N S,2J S,2S S,2M N S,2N M S,2J M S",
  "2S J S,2J S ab cz,3N,4S,2S T,4R,3P,4R,2T S,3R S,2W,2WH,2W R,2S N,3M,2K R S,2G R S,2S K,4R,2A",
  "2SLOAN OW,2OA,2O,2AOU,2I,2E,2IE,2fu I,2UI,2EE,2SLOAN EH,2ROMANIAN I,2SLOAN EE,2fk I,2YE,2U",
  "2EU,2XW,2U N,2fk U,2ROMANIAN U,2UH,2SLOAN U,2OOH,2OW,2OU,2WA,2WO,2WI,2WEI,2WOW,2NASAL U,3O,3I",
  "3A,2PERNIN AN,3AM,2SLOAN EN,3AN,3ON,2cw M,1bc70=1AFFIX av as xf,2MID as xf,2ai as xf",
  "2is an xf,2MID an xf,2fz an xf,2tw xf,3nw xf,3TANGENT,3hw,3E bw,3I bw,3TANGENT bw",
  "1bc80=2fz db,3TIGHT db,3ef,3fk ef,3cz,3bo,3gv,3rn,3an,1bc90=2is db,3TIGHT db,3ef,3fk ef,3cz",
  "3bo,3gv,3rn,3an,3ae,1bc9c=1ak O ab gr,1THICK aa SELECTOR,1al bj,1cc CHINOOK if gd",
  "0SHORTHAND FORMAT aa OVERLAP,2CONTINUING OVERLAP,2dg STEP,2UP STEP",
  "1cf00=0ZNAMENNY dj bj GORAZDO NIZKO S mn ON av,3NIZKO S mn ON av,3TSATA ON av",
  "3GORAZDO NIZKO ON av,3NIZKO ON av,3SREDNE ON av,3MALO mv ON av,3mv ON av,3VYSOKO ON av",
  "3MALO mv S um ON av,3mv S um ON av,3VYSOKO S um ON av,3GORAZDO NIZKO S mn ON ai",
  "3NIZKO S mn ON ai,3TSATA ON ai,3GORAZDO NIZKO ON ai,3NIZKO ON ai,3SREDNE ON ai,3MALO mv ON ai",
  "3mv ON ai,3VYSOKO ON ai,3MALO mv S um ON ai,3mv S um ON ai,3VYSOKO S um ON ai,3TSATA S mn",
  "3MALO mv S mn,3STRANNO MALO mv,3mv S mn,4STRANNO,3VYSOKO S mn,3MALO mv STRANNO",
  "3GORAZDO VYSOKO,3ZELO,3ON,3RAVNO,3TIKHAYA,3BORZAYA,3UDARKA,3PODVERTKA,3LOMKA,3KUPNAYA,3KACHKA",
  "3ZEVOK,3SKOBA,3RAZSEKA,3KRYZH ON av,1cf30=2TONAL RANGE bj MRACHNO,5SVETLO,5TRESVETLO",
  "2bj ZADERZHKA,3DEMESTVENNY ZADERZHKA,3OTSECHKA,3PODCHASHIE,4ab an at,3CHASHKA,4POLNAYA",
  "3OBLACHKO,3SOROCHYA NOZHKA,3TOCHKA,3DVOETOCHIE,2ATTACHING an OMET,2bj rg OMET,3KRYZH",
  "2cu TONAL RANGE nj,1PRIZNAK ev LEVEL-2,3LEVEL-3,3DIRECTION FLIP,3KRYZH,3ROG",
  "1cf50=1NEUME KRYUK,3TIKHY,2PARAKLIT,2DVA V CHELNU,2KLYUCH,2ZANOZHEK,2STOPITSA,3S OCHKOM",
  "2PEREVODKA,3ms,2STOPITSA ab SOROCHYA NOZHKA,2CHELYUSTKA,2PALKA,2ns,2GOLUBCHIK BORZY,3TIKHY",
  "3MRACHNY,3SVETLY,3TRESVETLY,2VRAKHIYA PROSTAYA,3MRACHNAYA,3qm,3vj,3mc PROSTAYA,4MRACHNAYA,4qm",
  "4vj,2al ns,2bq CHELYUSTKA,2DERBITSA,2KHAMILO,2CHASHKA,2PODCHASHIE,2SKAMEYTSA MRACHNAYA,3qm",
  "3vj,3TIKHAYA,2DEMESTVENNY KLYUCH,2SKAMEYTSA mc qm,3tq,3mc TIKHAYA,3yg PROSTAYA,4qm,4ms,4mc",
  "2SLOZHITIE,3S vm,3ZAKRYTOE,3S mn,2KRYZH,2ROG,2FITA,2KOBYLA,2ZMEYTSA,2STATYA,3S vm,4mn",
  "4vm I mn,4mn I vm,3ZAKRYTAYA,4S vm,3S ROGOM,4DVUMYA ZAPYATYMI,4vm I PODCHASHIEM,2POLKULIZMY",
  "2STATYA ms,2STRELA PROSTAYA,3MRACHNOTIKHAYA,3KRYZHEVAYA,3POLUPOVODNAYA,3POVODNAYA,3ms",
  "3KLYUCHEPOVODNAYA,3tq,3TIKHAYA PUTNAYA,3yg,3DVOECHELNOKRYZHEVAYA,3vx,3yg mc,3vx mc",
  "3GROMNAYA ab de ns,3px ab de ns,3GROMNAYA,3px,4ab al ns,3GROMOKRYZHEVAYA,4POVODNAYA,2MECHIK",
  "3POVODNY,3KLYUCHEVOY,3KLYUCHEPOVODNY,3KLYUCHENEPOSTOYANNY,2STRELA TRYASOGLASNAYA",
  "3TRYASOPOVODNAYA,3TRYASOSTRELNAYA,2OSOKA,3qm,3vj,3KRYUKOVAYA qm,3mc qm,4ms,2STRELA KRYUKOVAYA",
  "4POVODNAYA,4GROMNAYA ab de ns,4px ab de ns,4GROMNAYA,4px,5ab al ns,4GROMOKRYZHEVAYA",
  "5POVODNAYA,4TRYASKA,2KUFISMA,2OBLAKO,2DUDA,2NEMKA,2PAUK,1d000=0BYZANTINE mr au dx,3DASEIA,3bz",
  "3OXEIA ub,4DIPLI,3VAREIA ub,4DIPLI,3KATHISTI,3SYRMATIKI,3PARAKLITIKI,3YPOKRISIS,4DIPLI",
  "3KREMASTI,3APESO ub,3EXO ub,3TELEIA,3vq,3APOSTROFOS,4DIPLI,3SYNEVMA,3THITA,3OLIGON hp",
  "3GORGON hp,3PSILON,3CHAMILON,3VATHY,3ISON hp,3KENTIMA hp,3vq hp,3SAXIMATA,3PARICHON",
  "3STAVROS APODEXIA,3OXEIAI hp,3VAREIAI hp,3APODERMA hp,3APOTHEMA,3KLASMA,3REVMA,3PIASMA hp",
  "3TINAGMA,3ANATRICHISMA,3SEISMA,3SYNAGMA hp,4META STAVROU,3OYRANISMA hp,3THEMA,3LEMOI,3DYO",
  "3TRIA,3TESSERA,3KRATIMATA,3APESO EXO NEO,3FTHORA hp,3IMIFTHORA,3TROMIKON hp,3KATAVA TROMIKON",
  "3PELASTON,3PSIFISTON,3KONTEVMA,3CHOREVMA hp,3RAPISMA,3PARAKALESMA hp,3PARAKLITIKI hp,3ICHADIN",
  "3NANA,3PETASMA,3KONTEVMA ALLO,3TROMIKON ALLO,3STRAGGISMATA,3GRONTHISMATA,3ISON NEO",
  "3OLIGON NEO,3OXEIA NEO,3PETASTI,3KOUFISMA,3PETASTOKOUFISMA,3KRATIMOKOUFISMA,3PELASTON NEO",
  "3vq NEO ANO,3KENTIMA NEO ANO,3YPSILI,3APOSTROFOS NEO,3APOSTROFOI SYNDESMOS NEO,3YPORROI",
  "3KRATIMOYPORROON,3ELAFRON,3CHAMILI,3MIKRON ISON,3VAREIA NEO,3PIASMA NEO,3PSIFISTON NEO",
  "3OMALON,3ANTIKENOMA,3LYGISMA,3PARAKLITIKI NEO,3PARAKALESMA NEO,3ETERON PARAKALESMA,3KYLISMA",
  "3ANTIKENOKYLISMA,3TROMIKON NEO,3EKSTREPTON,3SYNAGMA NEO,3SYRMA,3CHOREVMA NEO,3EPEGERMA",
  "3SEISMA NEO,3XIRON KLASMA,3TROMIKOPSIFISTON,3PSIFISTOLYGISMA,3TROMIKOLYGISMA",
  "3TROMIKOPARAKALESMA,3PSIFISTOPARAKALESMA,3TROMIKOSYNAGMA,3PSIFISTOSYNAGMA,3GORGOSYNTHETON",
  "3ARGOSYNTHETON,3ETERON ARGOSYNTHETON,3OYRANISMA NEO,3THEMATISMOS ESO,4EXO,3THEMA APLOUN",
  "3THES KAI APOTHES,3KATAVASMA,3ENDOFONON,3YFEN KATO,4ANO,3STAVROS,3KLASMA ANO,3DIPLI hp",
  "3KRATIMA hp,4ALLO,4NEO,3APODERMA NEO,3APLI,3DIPLI,3TRIPLI,3TETRAPLI,3KORONIS",
  "3LEIMMA ENOS CHRONOU,4DYO CHRONON,4TRION CHRONON,4TESSARON CHRONON,4IMISEOS CHRONOU",
  "3GORGON NEO ANO,4PARESTIGMENON ARISTERA,5DEXIA,3DIGORGON,4PARESTIGMENON ARISTERA KATO,6ANO",
  "5DEXIA,3TRIGORGON,3ARGON,3IMIDIARGON,3DIARGON,3AGOGI POLI ARGI,4ARGOTERI,4ARGI,4METRIA,4MESI",
  "4GORGI,4GORGOTERI,4POLI GORGI,3MARTYRIA PROTOS th,4ALLI PROTOS th,4DEYTEROS th",
  "4ALLI DEYTEROS th,4TRITOS th,4TRIFONIAS,4TETARTOS th,5LEGETOS th,4LEGETOS th,4PLAGIOS th",
  "3ISAKIA TELOUS ICHIMATOS,3APOSTROFOI TELOUS ICHIMATOS,3FANEROSIS TETRAFONIAS,4MONOFONIAS",
  "4DIFONIAS,3MARTYRIA VARYS th,4PROTOVARYS th,4PLAGIOS TETARTOS th,3GORTHMIKON N APLOUN",
  "5DIPLOUN,3ENARXIS KAI FTHORA VOU,3IMIFONON,3IMIFTHORON,3FTHORA hp DEYTEROU ICHOU",
  "4DIATONIKI PA,5NANA,4NAOS th,4DIATONIKI DI,4SKLIRON DIATONON DI,4DIATONIKI KE,5ZO,5NI KATO",
  "6ANO,4MALAKON CHROMA DIFONIAS,6MONOFONIAS,3FHTORA SKLIRON CHROMA VASIS",
  "3FTHORA SKLIRON CHROMA SYNAFI,4NENANO,3CHROA ZYGOS,4KLITON,4SPATHI",
  "3FTHORA I YFESIS TETARTIMORION,4ENARMONIOS ANTIFONIA,3YFESIS TRITIMORION,3DIESIS TRITIMORION",
  "4TETARTIMORION,4APLI DYO pq,4MONOGRAMMOS TESSERA pq,4DIGRAMMOS EX pq,4TRIGRAMMOS OKTO pq",
  "3YFESIS APLI DYO pq,4MONOGRAMMOS TESSERA pq,4DIGRAMMOS EX pq,4TRIGRAMMOS OKTO pq",
  "3GENIKI DIESIS,4YFESIS,3DIASTOLI APLI MIKRI,5MEGALI,4DIPLI,4THESEOS,3SIMANSIS THESEOS",
  "5DISIMOU,5TRISIMOU,5TETRASIMOU,4ARSEOS,5DISIMOU,5TRISIMOU,5TETRASIMOU,3DIGRAMMA GG",
  "3DIFTOGGOS OU,3STIGMA,3ARKTIKO PA,4VOU,4GA,4DI,4KE,4ZO,4NI,3vq NEO MESO,3KENTIMA NEO MESO",
  "3vq NEO KATO,3KENTIMA NEO KATO,3KLASMA KATO,3GORGON NEO KATO,1d100=0mr au de xt,2al xt,2ar xt",
  "2ie ar xt,2on xt,2fu xt,2av REPEAT ak,2ai REPEAT ak,2REPEAT du,2DAL SEGNO,2DA CAPO,2SEGNO",
  "2CODA,2REPEATED FIGURE-1,3FIGURE-2,3FIGURE-3,2FERMATA,3aq,2BREATH bj,2CAESURA,2BRACE,2bd",
  "2ONE-LINE STAFF,2TWO-LINE STAFF,2THREE-LINE STAFF,2FOUR-LINE STAFF,2FIVE-LINE STAFF",
  "2SIX-LINE STAFF,2SIX-STRING FRETBOARD,2FOUR-STRING FRETBOARD,2G CLEF,4OTTAVA ALTA,5BASSA",
  "2C CLEF,2F CLEF,4OTTAVA ALTA,5BASSA,2DRUM CLEF-1,3CLEF-2,1d129=2kd yw uw,2al SHARP,3FLAT",
  "2FLAT UP,3dg,2NATURAL UP,3dg,2SHARP UP,3dg,2fj fo SHARP,4FLAT,2COMMON TIME,2CUT TIME",
  "2OTTAVA ALTA,3BASSA,2QUINDICESIMA ALTA,3BASSA,2MULTI uw,2WHOLE uw,2dh uw,2fj uw,2hy uw,2rz uw",
  "2wk uw,2zp uw,2cs az TWENTY-EIGHTH uw,2X kx,2cy kx,2bo X kx,2bn kx bc,4ax,2bg kx UP bc,5ax",
  "4av bc,5ax,4ai bc,5ax,4dg bc,5ax,4UP ai bc,6ax,2oo kx bc,4ax,2TRIANGLE-ROUND kx dg bc,5ax",
  "2cd kx,2VOID kx,2kx ax,2NULL kx,2CLUSTER kx bc,4ax,2ff,2WHOLE st,2dh st,2fj st,2hy st,2rz st",
  "2wk st,2zp st,2cs az TWENTY-EIGHTH st,2dj STEM,3SPRECHGESANG STEM,3TREMOLO-1,3TREMOLO-2",
  "3TREMOLO-3,2FINGERED TREMOLO-1,3TREMOLO-2,3TREMOLO-3,2dj AUGMENTATION cz,3FLAG-1,3FLAG-2",
  "3FLAG-3,3FLAG-4,3FLAG-5,2BEGIN BEAM,2yh BEAM,2BEGIN TIE,2yh TIE,2BEGIN SLUR,2yh SLUR",
  "2BEGIN PHRASE,2yh PHRASE,2dj fs,3STACCATO,3TENUTO,3STACCATISSIMO,3MARCATO,3MARCATO-STACCATO",
  "3ACCENT-STACCATO,3LOURE,2ARPEGGIATO UP,3dg,2dj DOIT,3RIP,3FLIP,3SMEAR,3BEND,3al TONGUE",
  "3es TONGUE,2RINFORZANDO,2SUBITO,2Z,2PIANO,2MEZZO,2FORTE,2CRESCENDO,2DECRESCENDO,2GRACE st qk",
  "4NO qk,2TR,2TURN,2ca TURN,2TURN qk,3UP,2cn STROKE-1,3STROKE-2,3STROKE-3,3STROKE-4,3STROKE-5",
  "3STROKE-6,3STROKE-7,3STROKE-8,3STROKE-9,3STROKE-10,3STROKE-11,2HAUPTSTIMME,2NEBENSTIMME",
  "2yh OF STIMME,2DEGREE qk,2dj dg BOW,3UP BOW,3HARMONIC,3SNAP PIZZICATO,2PEDAL bj,3UP bj",
  "2dh PEDAL bj,2GLISSANDO UP,3dg,2ab FINGERNAILS,2DAMP,3ALL,2MAXIMA,2LONGA,2BREVIS",
  "2SEMIBREVIS bc,3ax,2MINIMA,3ax,2SEMIMINIMA bc,3ax,2FUSA bc,3ax,2LONGA PERFECTA uw",
  "3IMPERFECTA uw,2BREVIS uw,2SEMIBREVIS uw,2MINIMA uw,2SEMIMINIMA uw",
  "2TEMPUS PERFECTUM CUM PROLATIONE PERFECTA,6IMPERFECTA,6PERFECTA DIMINUTION-1",
  "3IMPERFECTUM CUM PROLATIONE PERFECTA,6IMPERFECTA,7DIMINUTION-1,7DIMINUTION-2,7DIMINUTION-3",
  "2CROIX,2GREGORIAN C CLEF,3F CLEF,2bn B,2VIRGA,2PODATUS,2CLIVIS,2SCANDICUS,2CLIMACUS,2TORCULUS",
  "2PORRECTUS,3FLEXUS,2SCANDICUS FLEXUS,2TORCULUS RESUPINUS,2PES SUBPUNCTIS,2KIEVAN C CLEF",
  "3yh OF PIECE,3ar st,3RECITATIVE bj,3WHOLE st,3dh st,3fj st STEM dg,6UP,3hy st STEM dg,6UP",
  "3FLAT ak,2SORI,2KORON,1d200=0kn VOCAL qd SYMBOL-1,3SYMBOL-2,3SYMBOL-3,3SYMBOL-4,3SYMBOL-5",
  "3SYMBOL-6,3SYMBOL-7,3SYMBOL-8,3SYMBOL-9,3SYMBOL-10,3SYMBOL-11,3SYMBOL-12,3SYMBOL-13",
  "3SYMBOL-14,3SYMBOL-15,3SYMBOL-16,3SYMBOL-17,3SYMBOL-18,3SYMBOL-19,3SYMBOL-20,3SYMBOL-21",
  "3SYMBOL-22,3SYMBOL-23,3SYMBOL-24,3SYMBOL-50,3SYMBOL-51,3SYMBOL-52,3SYMBOL-53,3SYMBOL-54",
  "1INSTRUMENTAL qd SYMBOL-1,3SYMBOL-2,3SYMBOL-4,3SYMBOL-5,3SYMBOL-7,3SYMBOL-8,3SYMBOL-11",
  "3SYMBOL-12,3SYMBOL-13,3SYMBOL-14,3SYMBOL-17,3SYMBOL-18,3SYMBOL-19,3SYMBOL-23,3SYMBOL-24",
  "3SYMBOL-25,3SYMBOL-26,3SYMBOL-27,3SYMBOL-29,3SYMBOL-30,3SYMBOL-32,3SYMBOL-36,3SYMBOL-37",
  "3SYMBOL-38,3SYMBOL-39,3SYMBOL-40,3SYMBOL-42,3SYMBOL-43,3SYMBOL-45,3SYMBOL-47,3SYMBOL-48",
  "3SYMBOL-49,3SYMBOL-50,3SYMBOL-51,3SYMBOL-52,3SYMBOL-53,3SYMBOL-54,0dj kn mr TRISEME",
  "3TETRASEME,3PENTASEME,0kn mr LEIMMA,1d2e0=0MAYAN pb ex,2cs,2co,2aw,2bt,2by,2fx,2bv,2br,2dm",
  "2jx,2pr,2np,2qo,2pv,2nv,2pd,2nl,2ob,2qc,1d300=0ur to rq,0DIGRAM to HEAVENLY rq,2HUMAN rq",
  "2EARTHLY HEAVEN,3HUMAN,2rq,0TETRAGRAM to dz,2if bo,2MIRED,2BARRIER,2KEEPING ad,2CONTRARIETY",
  "2ASCENT,2OPPOSITION,2BRANCHING OUT,2DEFECTIVENESS OR DISTORTION,2DIVERGENCE,2YOUTHFULNESS",
  "2INCREASE,2PENETRATION,2REACH,2xz,2yn BACK,2WAITING,2FOLLOWING,2ADVANCE,2RELEASE,2RESISTANCE",
  "2EASE,2JOY,2CONTENTION,2ENDEAVOUR,2DUTIES,2CHANGE,2DECISIVENESS,2mz RESOLUTION,2PACKING",
  "2LEGION,2CLOSENESS,2KINSHIP,2GATHERING,2STRENGTH,2PURITY,2FULLNESS,2RESIDENCE,2LAW OR MODEL",
  "2RESPONSE,2GOING TO MEET,2ENCOUNTERS,2STOVE,2GREATNESS,2ENLARGEMENT,2PATTERN,2RITUAL,2FLIGHT",
  "2VASTNESS OR WASTING,2CONSTANCY,2yw,2ETERNITY,2UNITY,2DIMINISHMENT,2gl md,2GUARDEDNESS",
  "2GATHERING IN,2MASSING,2ACCUMULATION,2EMBELLISHMENT,2DOUBT,2WATCH,2SINKING,2INNER,2DEPARTURE",
  "2DARKENING,2DIMMING,2EXHAUSTION,2SEVERANCE,2STOPPAGE,2HARDNESS,2COMPLETION,2CLOSURE,2FAILURE",
  "2AGGRAVATION,2COMPLIANCE,2ON tr VERGE,2DIFFICULTIES,2LABOURING,2FOSTERING",
  "1d360=0COUNTING ROD UNIT cr cs,4co,4aw,4bt,4by,4fx,4bv,4br,4dm,2TENS cr cs,4co,4aw,4bt,4by",
  "4fx,4bv,4br,4dm,0gt TALLY bj cs,3co,3aw,3bt,3by,0TALLY bj cs,2by,1d400=0mq mz ac A,3B,3C,3D",
  "3E,3F,3G,3H,3I,3J,3K,3L,3M,3N,3O,3P,3Q,3R,3S,3T,3U,3V,3W,3X,3Y,3Z,2ad A,3B,3C,3D,3E,3F,3G,3H",
  "3I,3J,3K,3L,3M,3N,3O,3P,3Q,3R,3S,3T,3U,3V,3W,3X,3Y,3Z,1ri ac A,3B,3C,3D,3E,3F,3G,3H,3I,3J,3K",
  "3L,3M,3N,3O,3P,3Q,3R,3S,3T,3U,3V,3W,3X,3Y,3Z,2ad A,3B,3C,3D,3E,3F,3G,1d456=3I,3J,3K,3L,3M,3N",
  "3O,3P,3Q,3R,3S,3T,3U,3V,3W,3X,3Y,3Z,1mz ri ac A,4B,4C,4D,4E,4F,4G,4H,4I,4J,4K,4L,4M,4N,4O,4P",
  "4Q,4R,4S,4T,4U,4V,4W,4X,4Y,4Z,3ad A,4B,4C,4D,4E,4F,4G,4H,4I,4J,4K,4L,4M,4N,4O,4P,4Q,4R,4S,4T",
  "4U,4V,4W,4X,4Y,4Z,1it ac A,1d49e=3C,3D,1d4a2=3G,1d4a5=3J,3K,1d4a9=3N,3O,3P,3Q,1d4ae=3S,3T,3U",
  "3V,3W,3X,3Y,3Z,2ad A,3B,3C,3D,1d4bb=3F,1d4bd=3H,3I,3J,3K,3L,3M,3N,1d4c5=3P,3Q,3R,3S,3T,3U,3V",
  "3W,3X,3Y,3Z,1mz it ac A,4B,4C,4D,4E,4F,4G,4H,4I,4J,4K,4L,4M,4N,4O,4P,4Q,4R,4S,4T,4U,4V,4W,4X",
  "4Y,4Z,3ad A,4B,4C,4D,4E,4F,4G,4H,4I,4J,4K,4L,4M,4N,4O,4P,4Q,4R,4S,4T,4U,4V,4W,4X,4Y,4Z",
  "1FRAKTUR ac A,3B,1d507=3D,3E,3F,3G,1d50d=3J,3K,3L,3M,3N,3O,3P,3Q,1d516=3S,3T,3U,3V,3W,3X,3Y",
  "1d51e=2ad A,3B,3C,3D,3E,3F,3G,3H,3I,3J,3K,3L,3M,3N,3O,3P,3Q,3R,3S,3T,3U,3V,3W,3X,3Y,3Z",
  "1hf ac A,3B,1d53b=3D,3E,3F,3G,1d540=3I,3J,3K,3L,3M,1d546=3O,1d54a=3S,3T,3U,3V,3W,3X,3Y",
  "1d552=2ad A,3B,3C,3D,3E,3F,3G,3H,3I,3J,3K,3L,3M,3N,3O,3P,3Q,3R,3S,3T,3U,3V,3W,3X,3Y,3Z",
  "1mz FRAKTUR ac A,4B,4C,4D,4E,4F,4G,4H,4I,4J,4K,4L,4M,4N,4O,4P,4Q,4R,4S,4T,4U,4V,4W,4X,4Y,4Z",
  "3ad A,4B,4C,4D,4E,4F,4G,4H,4I,4J,4K,4L,4M,4N,4O,4P,4Q,4R,4S,4T,4U,4V,4W,4X,4Y,4Z,1er ac A,3B",
  "3C,3D,3E,3F,3G,3H,3I,3J,3K,3L,3M,3N,3O,3P,3Q,3R,3S,3T,3U,3V,3W,3X,3Y,3Z,2ad A,3B,3C,3D,3E,3F",
  "3G,3H,3I,3J,3K,3L,3M,3N,3O,3P,3Q,3R,3S,3T,3U,3V,3W,3X,3Y,3Z,2mz ac A,4B,4C,4D,4E,4F,4G,4H,4I",
  "4J,4K,4L,4M,4N,4O,4P,4Q,4R,4S,4T,4U,4V,4W,4X,4Y,4Z,3ad A,4B,4C,4D,4E,4F,4G,4H,4I,4J,4K,4L,4M",
  "4N,4O,4P,4Q,4R,4S,4T,4U,4V,4W,4X,4Y,4Z,2ri ac A,4B,4C,4D,4E,4F,4G,4H,4I,4J,4K,4L,4M,4N,4O,4P",
  "4Q,4R,4S,4T,4U,4V,4W,4X,4Y,4Z,3ad A,4B,4C,4D,4E,4F,4G,4H,4I,4J,4K,4L,4M,4N,4O,4P,4Q,4R,4S,4T",
  "4U,4V,4W,4X,4Y,4Z,2mz ri ac A,5B,5C,5D,5E,5F,5G,5H,5I,5J,5K,5L,5M,5N,5O,5P,5Q,5R,5S,5T,5U,5V",
  "5W,5X,5Y,5Z,4ad A,5B,5C,5D,5E,5F,5G,5H,5I,5J,5K,5L,5M,5N,5O,5P,5Q,5R,5S,5T,5U,5V,5W,5X,5Y,5Z",
  "1MONOSPACE ac A,3B,3C,3D,3E,3F,3G,3H,3I,3J,3K,3L,3M,3N,3O,3P,3Q,3R,3S,3T,3U,3V,3W,3X,3Y,3Z",
  "2ad A,3B,3C,3D,3E,3F,3G,3H,3I,3J,3K,3L,3M,3N,3O,3P,3Q,3R,3S,3T,3U,3V,3W,3X,3Y,3Z,1ri ad la I",
  "4J,1d6a8=1mz ac ik,3tn,3lh,3mk,3gx,3ZETA,3ETA,3ks,3mg,3of,3rv,3MU,3NU,3XI,3jg,3PI,3RHO,3ks au",
  "3kh,3TAU,3gp,3PHI,3CHI,3PSI,3hs,2NABLA,2ad ik,3tn,3lh,3mk,3gx,3ZETA,3ETA,3ks,3mg,3of,3rv,3MU",
  "3NU,3XI,3jg,3PI,3RHO,3ar kh,3kh,3TAU,3gp,3PHI,3CHI,3PSI,3hs,2zc ml,2gx au,2ks au,2of au",
  "2PHI au,2RHO au,2PI au,1ri ac ik,3tn,3lh,3mk,3gx,3ZETA,3ETA,3ks,3mg,3of,3rv,3MU,3NU,3XI,3jg",
  "3PI,3RHO,3ks au,3kh,3TAU,3gp,3PHI,3CHI,3PSI,3hs,2NABLA,2ad ik,3tn,3lh,3mk,3gx,3ZETA,3ETA,3ks",
  "3mg,3of,3rv,3MU,3NU,3XI,3jg,3PI,3RHO,3ar kh,3kh,3TAU,3gp,3PHI,3CHI,3PSI,3hs,2zc ml,2gx au",
  "2ks au,2of au,2PHI au,2RHO au,2PI au,1mz ri ac ik,4tn,4lh,4mk,4gx,4ZETA,4ETA,4ks,4mg,4of,4rv",
  "4MU,4NU,4XI,4jg,4PI,4RHO,4ks au,4kh,4TAU,4gp,4PHI,4CHI,4PSI,4hs,3NABLA,3ad ik,4tn,4lh,4mk,4gx",
  "4ZETA,4ETA,4ks,4mg,4of,4rv,4MU,4NU,4XI,4jg,4PI,4RHO,4ar kh,4kh,4TAU,4gp,4PHI,4CHI,4PSI,4hs",
  "3zc ml,3gx au,3ks au,3of au,3PHI au,3RHO au,3PI au,1er mz ac ik,4tn,4lh,4mk,4gx,4ZETA,4ETA",
  "4ks,4mg,4of,4rv,4MU,4NU,4XI,4jg,4PI,4RHO,4ks au,4kh,4TAU,4gp,4PHI,4CHI,4PSI,4hs,3NABLA,3ad ik",
  "4tn,4lh,4mk,4gx,4ZETA,4ETA,4ks,4mg,4of,4rv,4MU,4NU,4XI,4jg,4PI,4RHO,4ar kh,4kh,4TAU,4gp,4PHI",
  "4CHI,4PSI,4hs,3zc ml,3gx au,3ks au,3of au,3PHI au,3RHO au,3PI au,3ri ac ik,5tn,5lh,5mk,5gx",
  "5ZETA,5ETA,5ks,5mg,5of,5rv,5MU,5NU,5XI,5jg,5PI,5RHO,5ks au,5kh,5TAU,5gp,5PHI,5CHI,5PSI,5hs",
  "4NABLA,4ad ik,5tn,5lh,5mk,5gx,5ZETA,5ETA,5ks,5mg,5of,5rv,5MU,5NU,5XI,5jg,5PI,5RHO,5ar kh,5kh",
  "5TAU,5gp,5PHI,5CHI,5PSI,5hs,4zc ml,4gx au,4ks au,4of au,4PHI au,4RHO au,4PI au,1mz ac ye",
  "2ad ye,1d7ce=2cr ex,3cs,3co,3aw,3bt,3by,3fx,3bv,3br,3dm,1hf cr ex,3cs,3co,3aw,3bt,3by,3fx,3bv",
  "3br,3dm,1er cr ex,3cs,3co,3aw,3bt,3by,3fx,3bv,3br,3dm,2mz cr ex,4cs,4co,4aw,4bt,4by,4fx,4bv",
  "4br,4dm,1MONOSPACE cr ex,3cs,3co,3aw,3bt,3by,3fx,3bv,3br,3dm,0SIGNWRITING em ck,1fw ck,1uh ck",
  "1vp ck,1gh ck,1iq ck,1em ck mi,1fw ck mi,1em dt UNDER ck mi,2ck ig KNUCKLE,3CUPPED,3lw,4is",
  "1fw ck HINGE,1em ck bb,1fw ck bb,1em ck bb mi,4ig KNUCKLES,4lw,3UP bb lw,3lw bb UP,3bb hb",
  "5ck mi,5bb mi,5CUPPED,5lw,4ln,1fw ck bb ln,1em bb mi dy ck,2ck mi dy bb,3bb dt,1fw ck bb dt",
  "1em ck bb gj dt mi,4mi dt gj,4dt mi,4lw or dt oq,3UP bb lw dt oq,7hb,3lw bb UP dt oq",
  "3bb UP or dt jo,4dt CUPPED,5dk,5HOOKED,5lw,2dt jn ck bb gj,2ck bb hb dt oq,7hb,7mi",
  "2bb dt HOOKED ck UP,2ck dt HOOKED bb UP,3bb hb lw dt oq,4ln dt oq,4hb dt jo,5CUPPED dt jo",
  "2bb dt CUPPED ck UP,2ck dt CUPPED bb UP,2bb dt dk ck UP,6lw,2ck dt ANGLED OUT bb UP,5IN bb UP",
  "4dk bb UP,3bb dt hb lw,5ANGLED OUT,6,2bb dt ANGLED OUT ck UP,7ln,5ck UP,2ck dt HOOKED bb lw",
  "1HAND-FLAT bt hh,4mi,4lw,4hb,5SPLIT,1HAND-CLAW bt hh hb,1em bt hh hb mi,1gh bt hh hb",
  "1HAND-FLAT by hh or,2HEEL by hh or,2by hh or bt mi,2HEEL by hh or bt mi,2by hh or mi",
  "2HEEL by hh or mi,2by hh or dt jo,1uh by hh or,5fg,1gh by hh or fg,1vp by hh or",
  "1HAND-FLAT by hh or lw,6dt oq,6NO dt,2,2jn PALM FACINGS,2HEEL,2dt oq,2HEEL dt oq,2dt mi,3jo",
  "2SPLIT ck dt oq,3dz,4dt oq,6mi,3ec,1HAND-CLAW,2dt oq,2NO dt,2dt jo,1vo CURLICUE,2,1uh fg,2",
  "2fg dt oq,2dt oq,2fg NO dt,2NO dt,2fg dt jo,2dt jo,1wc fg,2,1fw,1vp,2dt oq,2NO dt,2dt jo",
  "1gh fg,3dt jo,2,2ad,2fg dt oq,2dt oq,2fg NO dt,2NO dt,2dt oq TOUCHING ck,3jn bb ei,1iq",
  "1em ck bb ei,1fw ck bb ei,1gh ck bb ei,1iq ck bb ei,1gh ec,1em ck bb ei mi,5hb",
  "1gh ck bb ei hb,1em ec dg,4RIPPLE gj,5rg,4OTHERS dk,3UP,2dt UNDER ec UP,1fw ec UP,1vp ec UP",
  "1iq ec UP,1em ec ig KNUCKLE,3mi,3TOUCHES dt,3dt,1gh ec dt,1em ec ck dt,1gh ec ck dt",
  "1iq ec ck dt ck dt OUT,7,1em ec ck,1fw ec ck,1gh ec ck,1iq ec ck,1em ck bb ec,1fw ck bb ec",
  "1gh ck bb ec,2ei,1iq ck bb ec,1em ck bb gr ec,1fw ck bb gr ec,1em ei dg,1gh ei dg ck dt bw bb",
  "1iq ei dg bb dt ck gr,1em ei UP,3ig KNUCKLE,3ec,1fw ei ec,1vp ei ec,1iq ei ec,1em ei bb,4hb",
  "4ig KNUCKLES,3ck,3dt,1vo ei dt,1em ck ei ec,1fw ck ei ec,1wc ck ei ec ON,1vo ck ei ec OUT,5IN",
  "5UNDER,1uh ck ei ec,1gh ck ei ec,1iq ck ei ec OUT,5,1em bb dg,1gh bb,1em bb UP,1fw bb UP",
  "1em bb ig KNUCKLE,3UP dt oq,1vo bb dt,1em bb dt ec,3ec,3ei ec,1fw bb ei ec,1wc bb ei ec ON",
  "1uh bb ei ec,1gh bb ei ec,1iq bb ei ec OUT,5IN,5,1fw bb ei ec mi,1HAND-CLAW bb ei ec hb,6oq",
  "1vo bb ei ec hb OUT,6IN,6,1gh ck lw,1em ck dt oq,1gh ck dt oq,1em ck dt oq dt dl,6hb,6mi",
  "5ck mi,5BOTH mi,5ck HINGE,4jo ck gj,6mi,4bw,4CURLICUE,4nz dt kl,1HAND-CLAW ck dt nz dt kl",
  "1em ck dt nz dt UNDER,4bo,1uh ck dt,4fg,1gh ck dt fg,4ee,4,4ad,1iq ck dt OUT,4IN,4,1em dt",
  "3HEEL,3oq dl,4hb,4mi,3jo,3jn ck bb,4bb ei,4ei ec,3UNDER co hh,3dy co hh,3UNDER aw hh,4bt hh",
  "3dy bt ig KNUCKLES,2,2HEEL,1TOUCH de,2kd,2jn,1GRASP de,2kd,2jn,1STRIKE de,2kd,2jn,1BRUSH de",
  "2kd,2jn,1RUB de,2kd,2jn,1SURFACE SYMBOLS,2jn,1SQUEEZE ee de,2ad de,2ee kd,2ad kd,2xg",
  "1FLICK ee de,2ad de,2ee kd,2ad kd,2xg,1SQUEEZE FLICK fn,1MOVEMENT-HINGE UP dg ee,4ad,3xg",
  "2dg xg,2UP dg fn ee,5ad,2oq TO oq vd,1eo ws xz,1eh ws xz,1eo de gj ad,4ce,4ee,4qy,3vl FLEX",
  "2al gj,3vl FLEX,3fn,4vl FLEX,2gr,2es gj qb,3vl FLEX,3fn,4vl FLEX,2BEND ad,3ce,3ee,2ha ad,3ce",
  "3ee,3ROTATION,2tz ad,3ce,3ee,2BOX ad,3ce,3ee,2xp ad,3ce,3ee,2PEAKS ad,3ce,3ee",
  "1TRAVEL-WALLPLANE kb de,3al,3fn,2jp de,3al,3fn,2SHAKING,2ARM SPIRAL de,4al,4es",
  "1MOVEMENT-DIAGONAL AWAY ad,3ce,3ee,3qy,2TOWARDS ad,3ce,3ee,3qy,2jn AWAY ad,4ce,4ee,4qy",
  "3TOWARDS ad,4ce,4ee,4qy,1eh de gj ad,4ce,4ee,4qy,3vl FLEX,2al gj,3vl FLEX,3fn,4vl FLEX,2gr",
  "2es gj qb,3vl FLEX,3fn qb,4vl FLEX,2BEND,2ha ad,3ce,3ee,2tz,2BOX ad,3ce,3ee,2xp ad,3ce,3ee",
  "2PEAKS ad,3ce,3ee,1TRAVEL-FLOORPLANE jp de,3al,3fn,2kb de,3al,3fn,2SHAKING,1eo nz fj ad,4ce",
  "4ee,4qy,3HALF-CIRCLE ad,4ce,4ee,4qy,3THREE-QUARTER bo ad,5ce,2HUMP ad,3ce,3ee,2uq ad,3ce,3ee",
  "3ad al,2rn nz al ad,5ce,5ee,4es ad,5ce,5ee,2nz THEN gj,2rg gr ad,4ce,1kb de,2al,2fp",
  "1eo SHAKING,2nz fv FRONT WALL,2HUMP fv FRONT WALL,2uq fv FRONT WALL,2rn fv FRONT WALL",
  "1kb de fv FRONT WALL,2al fv FRONT WALL,2fn fv FRONT WALL,1eo nz fv CHEST,2HUMP fv CHEST",
  "2uq fv CHEST,2rn fv CHEST,1kb de fv CHEST,2al fv CHEST,2fn fv CHEST,1eo rn dl PATH ad,5ce,5ee",
  "1eh nz fv qv ad,5ee,2HUMP fv qv ad al,5ee al,5ad es,5ee es,2uq fv qv ad de,5ee de,5ad al",
  "5ee al,2rn fv qv ad,5ee,1jp de fv qv,2al fv qv,2fn fv qv,1eh nz fv yi ad,5ee",
  "2HUMP fv yi ad al,5ee al,5es ad es,6ee es,2uq fv yi ad de,5ee de,5ad al,5ee al,2rn fv yi ad",
  "5ee,1jp de fv yi,2al fv yi,2fn fv yi,1eh nz ad,3ce,3ee,3qy,3COMBINED,2HUMP ad,2uq ad",
  "2rn SNAKE,3ad,3ee,1jp de,2al,2fn,1eh SHAKING qh,1eo ARM bo ad de,4ce de,4ad al,4ce al",
  "1eh ARM bo fv WALL ad de,6ce de,6ee de,6ad al,6ce al,6ee al,1eo vl bo FRONT de,5al",
  "1eh vl bo fv WALL de,6al,1eo ws lm de,4al,1eh ws lm fv WALL de,6al,1DYNAMIC bm ad,3ee,2FAST",
  "2SLOW,2TENSE,2RELAXED,2SIMULTANEOUS,3fn,2EVERY OTHER TIME,2GRADUAL,1tp,2RIM,2eo gj,3TILT",
  "2eh gj,2eo nz,2eh nz,2qb bo,1ds DIRECTION POSITION NOSE jo TILTING,5UP OR dg,8TILTING",
  "1EYEBROWS gj UP,3hu,3dg,1DREAMY EYEBROWS hu dg,3dg hu,3UP hu,3hu UP,1FOREHEAD hu,2xz,2sc",
  "1rs fg,2SQUEEZED,2gl,1EYE BLINK de,3kd,1rs dh fg,2WIDE fg,2dh gl,2WIDENING qb,1EYE WINK",
  "1EYELASHES UP,2dg,2FLUTTERING,1qw gj,3al,3fn,1wr gj,3al,3fn,1qw rg,1wr rg,1qw CIRCLING",
  "1CHEEKS PUFFED,2hu,2SUCKED,1TENSE CHEEKS fz,3bb,3is,1EARS,1NOSE hu,2xz,2WRINKLES,2WIGGLES",
  "1AIR BLOWING OUT,2SUCKING IN,2BLOW ad ROTATIONS,2SUCK ad ROTATIONS,1BREATH INHALE,2EXHALE",
  "1md gl hu,3jo,3xz,2SMILE,3sc,3fg,2FROWN,3sc,3fg,2fg bo,3jo,3sc,3OVAL,4sc,4YAWN,3pi,4sc,4YAWN",
  "2KISS,3jo,3sc,2TENSE,3jo,3SUCKED,1LIPS PRESSED TOGETHER,1LIP cu dy dr,2dr dy cu,1md ya",
  "2WRINKLES de,3al,1TONGUE STICKING OUT FAR,2LICKING LIPS,2TIP jn LIPS,3TOUCHING kl md",
  "2kl md RELAXED,2MOVES AGAINST CHEEK,2dz STICKING OUT,3kl md,1TEETH,2qb,2ON TONGUE,4qb,3LIPS",
  "4qb,2BITE LIPS,1eo JAW,1eh JAW,1NECK,1HAIR,1EXCITEMENT,1SHOULDER HIP SPINE,3POSITIONS",
  "1WALLPLANE SHOULDER HIP MOVE,1FLOORPLANE SHOULDER HIP MOVE,1SHOULDER TILTING me WAIST",
  "1TORSO-WALLPLANE gj STRETCH,2rg BEND,1TORSO-FLOORPLANE TWISTING",
  "1dr BODY TILTING me HIP JOINTS,1LIMB COMBINATION,2LENGTH-1,2LENGTH-2,2LENGTH-3,2LENGTH-4",
  "2LENGTH-5,2LENGTH-6,2LENGTH-7,1ws,1LOCATION-WALLPLANE ll,1LOCATION-FLOORPLANE ll",
  "1LOCATION HEIGHT,2WIDTH,2DEPTH,2tp NECK,2TORSO,2LIMBS DIGITS,1et,1if gd,1jt,1iw,1cd",
  "1da9b=1FILL MODIFIER-2,2MODIFIER-3,2MODIFIER-4,2MODIFIER-5,2MODIFIER-6",
  "1daa1=1ROTATION MODIFIER-2,2MODIFIER-3,2MODIFIER-4,2MODIFIER-5,2MODIFIER-6,2MODIFIER-7",
  "2MODIFIER-8,2MODIFIER-9,2MODIFIER-10,2MODIFIER-11,2MODIFIER-12,2MODIFIER-13,2MODIFIER-14",
  "2MODIFIER-15,2MODIFIER-16,1df00=0ft ad aa FENG gm ab TRILL,3bq it G,1aa ad ac ci G",
  "1ad aa bq K,1aa ad ac L ab BELT,1ad aa LEZH ab cx bw,3ci Y ab BELT,3bq ENG",
  "3ci R ab fk LEG bi cx bw,3T ab bw bi cx bw,1aa cx wb ab cx bw,1ad aa ESH ab al ge,7bi rf",
  "3ci T ab rf,1aa ca go gd ab rf,2STRETCHED C ab rf,2ad ac ci K,1ad aa L ab rt",
  "3DEZH gm ab gg bw,3L ab BELT bi gg bw,3ENG ab gg bw,3ci R ab gg bw,3R ab rt bi gg bw",
  "3TESH gm ab gg bw,3EZH ab gg bw,3DEZH gm ab cx bw,3I ab at bi cx bw,3O ab cx bw",
  "3TESH gm ab cx bw,3C ab cx bw,3S ab rf,1e000=0dj GLAGOLITIC aa AZU,3BUKY,3VEDE,3GLAGOLI",
  "3DOBRO,3YESTU,3ZHIVETE,1e008=3ZEMLJA,3IZHE,3ap IZHE,3I,3DJERVI,3KAKO,3LJUDIJE,3MYSLITE,3NASHI",
  "3ONU,3POKOJI,3RITSI,3SLOVO,3TVRIDO,3UKU,3FRITU,3HERU,1e01b=3SHTA,3TSI,3CHRIVI,3kt,3YERU,3YERI",
  "3YATI,1e023=3YU,3ad zz,1e026=3YO,3yp ad zz,3BIG zz,3yp BIG zz,3FITA",
  "1e100=0NYIAKENG PUACHUE HMONG aa MA,4zq,4NTA,4TA,4HA,4NA,4XA,4NKA,4CA,4LA,4SA,4ZA,4NCA,4NTSA",
  "4KA,4DA,4lj,4NRA,4VA,4NTXA,4TXA,4FA,4RA,4QA,4YA,4NQA,4PA,4XYA,4NPA,4DLA,4NPLA,4iz,4MLA,4PLA",
  "4GA,4RRA,4A,4AA,4I,4U,4O,4OO,4E,4EE,4W,1e130=3TONE-B,3TONE-M,3TONE-J,3TONE-V,3TONE-S,3TONE-G",
  "3TONE-D,3ak to ly,5THING,5LOCATION,5ANIMAL,5INVERTEBRATE,4XW XW,3iu wy,1e140=3cr ex,4cs,4co",
  "4aw,4bt,4by,4fx,4bv,4br,4dm,1e14e=3yv NYAJ,3dk CA,1e290=0TOTO aa PA,2BA,2TA,2DA,2KA,2GA,2MA",
  "2NA,2kp,2SA,2lg,2YA,2WA,2JA,2HA,2RA,2LA,2I,2BREATHY I,2IU,2BREATHY IU,2U,2E,2BREATHY E,2EO",
  "2BREATHY EO,2O,2AE,2BREATHY AE,2A,1ak op fo,1e2c0=0WANCHO aa AA,2A,2BA,2CA,2DA,2GA,2YA,2nx",
  "2LA,2NA,2PA,2TA,2mh,2FA,2SA,2kt,2JA,2ZA,2WA,2VA,2KA,2O,2AU,2RA,2MA,2lo,2HA,2E,2I,2kp,2U,2LLHA",
  "2zq,2TRA,2ONG,2AANG,2ANG,2ING,2ON,2EN,2AAN,2lj,2UEN,2YIH,1fo TUP,2TUPNI,2KOI,2KOINI,1cr ex",
  "2cs,2co,2aw,2bt,2by,2fx,2bv,2br,2dm,1e2ff=1NGUN ak,1e7e0=0ETHIOPIC iu HHYA,2HHYU,2HHYI,2HHYAA",
  "2HHYEE,2HHYE,2HHYO,1e7e8=2GURAGE HHWA,2HHWI,2HHWEE,2HHWE,1e7ed=2GURAGE MWI,3MWEE,1e7f0=3QWI",
  "3QWEE,3QWE,3BWI,3BWEE,3KWI,3KWEE,3KWE,3GWI,3GWEE,3GWE,3FWI,3FWEE,3PWI,3PWEE",
  "1e800=0MENDE KIKAKUI iu M001 KI,3M002 KA,3M003 KU,3M065 KEE,3M095 KE,3M076 KOO,3M048 KO",
  "3M179 KUA,3M004 WI,3M005 WA,3M006 WU,3M126 WEE,3M118 WE,3M114 WOO,3M045 WO,3M194 WUI",
  "3M143 WEI,3M061 WVI,3M049 WVA,3M139 WVE,3M007 MIN,3M008 MAN,3M009 MUN,3M059 MEN,3M094 MON",
  "3M154 MUAN,3M189 MUEN,3M010 BI,3M011 BA,3M012 BU,3M150 BEE,3M097 BE,3M103 BOO,3M138 BO",
  "3M013 I,3M014 A,3M015 U,3M163 EE,3M100 E,3M165 OO,3M147 O,3M137 EI,3M131 IN,3M135 IN,3M195 AN",
  "3M178 EN,3M019 SI,3M020 SA,3M021 SU,3M162 SEE,3M116 SE,3M136 SOO,3M079 SO,3M196 SIA,3M025 LI",
  "3M026 LA,3M027 LU,3M084 LEE,3M073 LE,3M054 LOO,3M153 LO,3M110 fk LE,3M016 DI,3M017 DA",
  "3M018 DU,3M089 DEE,3M180 DOO,3M181 DO,3M022 TI,3M023 TA,3M024 TU,3M091 TEE,3M055 TE,3M104 TOO",
  "3M069 TO,3M028 JI,3M029 JA,3M030 JU,3M157 JEE,3M113 JE,3M160 JOO,3M063 JO,3M175 fk JO",
  "3M031 YI,3M032 YA,3M033 YU,3M109 YEE,3M080 YE,3M141 YOO,3M121 YO,3M034 FI,3M035 FA,3M036 FU",
  "3M078 FEE,3M075 FE,3M133 FOO,3M088 FO,3M197 FUA,3M101 FAN,3M037 NIN,3M038 NAN,3M039 qr",
  "3M117 NEN,3M169 NON,3M176 HI,3M041 HA,3M186 HU,3M040 HEE,3M096 HE,3M042 HOO,3M140 HO",
  "3M083 HEEI,3M128 HOOU,3M053 HIN,3M130 HAN,3M087 HUN,3M052 HEN,3M193 HON,3M046 HUAN,3M090 NGGI",
  "3M043 NGGA,3M082 NGGU,3M115 NGGEE,3M146 NGGE,3M156 NGGOO,3M120 NGGO,3M159 NGGAA,3M127 NGGUA",
  "3M086 fk NGGE,3M106 fk NGGOO,3M183 fk NGGO,3M155 GI,3M111 GA,3M168 GU,3M190 GEE,3M166 GUEI",
  "3M167 GUAN,3M184 NGEN,3M057 NGON,3M177 NGUAN,3M068 PI,3M099 PA,3M050 PU,3M081 PEE,3M051 PE",
  "3M102 POO,3M066 PO,3M145 MBI,3M062 MBA,3M122 MBU,3M047 MBEE,3M188 MBEE,3M072 MBE,3M172 MBOO",
  "3M174 MBO,3M187 MBUU,3M161 fk MBE,3M105 fk MBOO,3M142 fk MBO,3M132 KPI,3M092 KPA,3M074 KPU",
  "3M044 KPEE,3M108 KPE,3M112 KPOO,3M158 KPO,3M124 GBI,3M056 GBA,3M148 GBU,3M093 GBEE,3M107 GBE",
  "3M071 GBOO,3M070 GBO,3M171 RA,3M123 NDI,3M129 NDA,3M125 NDU,3M191 NDEE,3M119 NDE,3M067 NDOO",
  "3M064 NDO,3M152 NJA,3M192 NJU,3M149 NJEE,3M134 NJOO,3M182 VI,3M185 VA,3M151 VU,3M173 VEE",
  "3M085 VE,3M144 VOO,3M077 VO,3M164 NYIN,3M058 NYAN,3M170 NYUN,3M098 NYEN,3M060 NYON",
  "1e8c7=2cr cs,3co,3aw,3bt,3by,3fx,3bv,3br,3dm,2dj dq TEENS,4TENS,4HUNDREDS,4nn,4jx nn,4az nn",
  "4rw,1e900=0ADLAM ac aa ALIF,3DAALI,3LAAM,3MIIM,3BA,3SINNYIIYHE,3PE,3BHE,3RA,3E,3FA,3I,3O,3po",
  "3YHE,3ts,3qr,3yr,3YA,3U,3JIIM,3CHI,3HA,3QAAF,3GA,3lj,3TU,3NHA,3VA,3lo,3GBE,3ZAL,3KPO,3kt",
  "1ad aa ALIF,3DAALI,3LAAM,3MIIM,3BA,3SINNYIIYHE,3PE,3BHE,3RA,3E,3FA,3I,3O,3po,3YHE,3ts,3qr,3yr",
  "3YA,3U,3JIIM,3CHI,3HA,3QAAF,3GA,3lj,3TU,3NHA,3VA,3lo,3GBE,3ZAL,3KPO,3kt,1ALIF wy,1cm wy",
  "1sm bj,1hz,1fq ev,1GEMINATE fq ev,1kq,1yy bj,1e950=1cr ex,2cs,2co,2aw,2bt,2by,2fx,2bv,2br,2dm",
  "1e95e=1ap dw bj,2fc bj,1ec71=0INDIC SIYAQ dq cs,3co,3aw,3bt,3by,3fx,3bv,3br,3dm,3jx,3fl,3jk",
  "3od,3im,3ou,3fe,3mm,3ga,3cs az,3co az,3aw az,3bt az,3by az,3fx az,3bv az,3br az,3dm az,3cs ba",
  "3co ba,3aw ba,3bt ba,3by ba,3fx ba,3bv ba,3br ba,3dm ba,3jx ba,3fl ba,3jk ba,3od ba,3im ba",
  "3ou ba,3fe ba,3mm ba,3ga ba,3LAKH,3LAKHAN,2LAKH bj,2dq KAROR,3KARORAN,3PREFIXED cs,4co,4aw",
  "4bt,4by,4fx,4bv,4br,4dm,2PLACEHOLDER,2hq cs fj,4dh,3aw ji,2RUPEE bj,2dq fp cs,4co,4jx ba",
  "2fp LAKH bj,1ed01=0OTTOMAN SIYAQ dq cs,3co,3aw,3bt,3by,3fx,3bv,3br,3dm,3jx,3fl,3jk,3od,3im",
  "3ou,3fe,3mm,3ga,3cs az,3co az,3aw az,3bt az,3by az,3fx az,3bv az,3br az,3dm az,3cs ba,3co ba",
  "3aw ba,3bt ba,3by ba,3fx ba,3bv ba,3br ba,3dm ba,3jx ba,3fl ba,3jk ba,3od ba,3im ba,3ou ba",
  "3fe ba,3mm ba,3ga ba,2MARRATAN,2fp dq co,4aw,4bt,4by,4fx,4bv,4br,4dm,4jx,4bt az,4fx az,4co ba",
  "4jx ba,2hq cs dh,4SIXTH,1ee00=0kk mq ea,2BEH,2fi,2DAL,1ee05=2ts,2zx,2iz,2TAH,2hl,2yr,2tt,2cv",
  "2ke,2oj,2wa,2FEH,2SAD,2QAF,2xq,2na,2TEH,2THEH,2ia,2THAL,2DAD,2ZAH,2ot,2la BEH,3ke,3FEH,3QAF",
  "1ee21=2ap BEH,3fi,1ee24=3zy,1ee27=3iz,1ee29=3hl,3yr,3tt,3cv,3ke,3oj,3wa,3FEH,3SAD,3QAF",
  "1ee34=3na,3TEH,3THEH,3ia,1ee39=3DAD,1ee3b=3ot,1ee42=2TAILED fi,1ee47=3iz,1ee49=3hl,1ee4b=3tt",
  "1ee4d=3ke,3oj,3wa,1ee51=3SAD,3QAF,1ee54=3na,1ee57=3ia,1ee59=3DAD,1ee5b=3ot,1ee5d=3la ke",
  "1ee5f=4QAF,1ee61=2STRETCHED BEH,3fi,1ee64=3zy,1ee67=3iz,3TAH,3hl,3yr,1ee6c=3cv,3ke,3oj,3wa",
  "3FEH,3SAD,3QAF,1ee74=3na,3TEH,3THEH,3ia,1ee79=3DAD,3ZAH,3ot,3la BEH,1ee7e=4FEH",
  "1ee80=2LOOPED ea,3BEH,3fi,3DAL,3zy,3ts,3zx,3iz,3TAH,3hl,1ee8b=3tt,3cv,3ke,3oj,3wa,3FEH,3SAD",
  "3QAF,3xq,3na,3TEH,3THEH,3ia,3THAL,3DAD,3ZAH,3ot,1eea1=2hf BEH,3fi,3DAL,1eea5=3ts,3zx,3iz,3TAH",
  "3hl,1eeab=3tt,3cv,3ke,3oj,3wa,3FEH,3SAD,3QAF,3xq,3na,3TEH,3THEH,3ia,3THAL,3DAD,3ZAH,3ot",
  "1eef0=2do cv ab iz ab TATWEEL,3iz ab DAL,1f000=0MAHJONG TILE hc WIND,2gy WIND,2ic WIND",
  "2gi WIND,2RED wp,2GREEN wp,2bc wp,2cs OF kv,2co OF kv,2aw OF kv,2bt OF kv,2by OF kv,2fx OF kv",
  "2bv OF kv,2br OF kv,2dm OF kv,2cs OF qu,2co OF qu,2aw OF qu,2bt OF qu,2by OF qu,2fx OF qu",
  "2bv OF qu,2br OF qu,2dm OF qu,2cs OF lm,2co OF lm,2aw OF lm,2bt OF lm,2by OF lm,2fx OF lm",
  "2bv OF lm,2br OF lm,2dm OF lm,2PLUM,2ORCHID,2BAMBOO,2CHRYSANTHEMUM,2SPRING,2SUMMER,2AUTUMN",
  "2WINTER,2JOKER,2BACK,1f030=0DOMINO TILE as BACK,2HORIZONTAL-00-00,2HORIZONTAL-00-01",
  "2HORIZONTAL-00-02,2HORIZONTAL-00-03,2HORIZONTAL-00-04,2HORIZONTAL-00-05,2HORIZONTAL-00-06",
  "2HORIZONTAL-01-00,2HORIZONTAL-01-01,2HORIZONTAL-01-02,2HORIZONTAL-01-03,2HORIZONTAL-01-04",
  "2HORIZONTAL-01-05,2HORIZONTAL-01-06,2HORIZONTAL-02-00,2HORIZONTAL-02-01,2HORIZONTAL-02-02",
  "2HORIZONTAL-02-03,2HORIZONTAL-02-04,2HORIZONTAL-02-05,2HORIZONTAL-02-06,2HORIZONTAL-03-00",
  "2HORIZONTAL-03-01,2HORIZONTAL-03-02,2HORIZONTAL-03-03,2HORIZONTAL-03-04,2HORIZONTAL-03-05",
  "2HORIZONTAL-03-06,2HORIZONTAL-04-00,2HORIZONTAL-04-01,2HORIZONTAL-04-02,2HORIZONTAL-04-03",
  "2HORIZONTAL-04-04,2HORIZONTAL-04-05,2HORIZONTAL-04-06,2HORIZONTAL-05-00,2HORIZONTAL-05-01",
  "2HORIZONTAL-05-02,2HORIZONTAL-05-03,2HORIZONTAL-05-04,2HORIZONTAL-05-05,2HORIZONTAL-05-06",
  "2HORIZONTAL-06-00,2HORIZONTAL-06-01,2HORIZONTAL-06-02,2HORIZONTAL-06-03,2HORIZONTAL-06-04",
  "2HORIZONTAL-06-05,2HORIZONTAL-06-06,2an BACK,2VERTICAL-00-00,2VERTICAL-00-01,2VERTICAL-00-02",
  "2VERTICAL-00-03,2VERTICAL-00-04,2VERTICAL-00-05,2VERTICAL-00-06,2VERTICAL-01-00",
  "2VERTICAL-01-01,2VERTICAL-01-02,2VERTICAL-01-03,2VERTICAL-01-04,2VERTICAL-01-05",
  "2VERTICAL-01-06,2VERTICAL-02-00,2VERTICAL-02-01,2VERTICAL-02-02,2VERTICAL-02-03",
  "2VERTICAL-02-04,2VERTICAL-02-05,2VERTICAL-02-06,2VERTICAL-03-00,2VERTICAL-03-01",
  "2VERTICAL-03-02,2VERTICAL-03-03,2VERTICAL-03-04,2VERTICAL-03-05,2VERTICAL-03-06",
  "2VERTICAL-04-00,2VERTICAL-04-01,2VERTICAL-04-02,2VERTICAL-04-03,2VERTICAL-04-04",
  "2VERTICAL-04-05,2VERTICAL-04-06,2VERTICAL-05-00,2VERTICAL-05-01,2VERTICAL-05-02",
  "2VERTICAL-05-03,2VERTICAL-05-04,2VERTICAL-05-05,2VERTICAL-05-06,2VERTICAL-06-00",
  "2VERTICAL-06-01,2VERTICAL-06-02,2VERTICAL-06-03,2VERTICAL-06-04,2VERTICAL-06-05",
  "2VERTICAL-06-06,1f0a0=0PLAYING CARD BACK,2ACE OF nm,2co OF nm,2aw OF nm,2bt OF nm,2by OF nm",
  "2fx OF nm,2bv OF nm,2br OF nm,2dm OF nm,2jx OF nm,2JACK OF nm,2ht OF nm,2qi OF nm,2un OF nm",
  "1f0b1=2ACE OF ld,2co OF ld,2aw OF ld,2bt OF ld,2by OF ld,2fx OF ld,2bv OF ld,2br OF ld",
  "2dm OF ld,2jx OF ld,2JACK OF ld,2ht OF ld,2qi OF ld,2un OF ld,2RED JOKER,1f0c1=2ACE OF js",
  "2co OF js,2aw OF js,2bt OF js,2by OF js,2fx OF js,2bv OF js,2br OF js,2dm OF js,2jx OF js",
  "2JACK OF js,2ht OF js,2qi OF js,2un OF js,2ax JOKER,1f0d1=2ACE OF rp,2co OF rp,2aw OF rp",
  "2bt OF rp,2by OF rp,2fx OF rp,2bv OF rp,2br OF rp,2dm OF rp,2jx OF rp,2JACK OF rp,2ht OF rp",
  "2qi OF rp,2un OF rp,2bc JOKER,2FOOL,2TRUMP-1,2TRUMP-2,2TRUMP-3,2TRUMP-4,2TRUMP-5,2TRUMP-6",
  "2TRUMP-7,2TRUMP-8,2TRUMP-9,2TRUMP-10,2TRUMP-11,2TRUMP-12,2TRUMP-13,2TRUMP-14,2TRUMP-15",
  "2TRUMP-16,2TRUMP-17,2TRUMP-18,2TRUMP-19,2TRUMP-20,2TRUMP-21,1f100=0cr ex if gd,2et,1cs et",
  "1co et,1aw et,1bt et,1by et,1fx et,1bv et,1br et,1dm et,0DINGBAT dk er cr ex,1jf dk er cr ex",
  "0dk ex ab qk,1ek ae,1DOLLAR ak ab OVERLAID pg,0rl ft ac aa A,4B,4C,4D,4E,4F,4G,4H,4I,4J,4K,4L",
  "4M,4N,4O,4P,4Q,4R,4S,4T,4U,4V,4W,4X,4Y,4Z,0ib ky BRACKETED ft ac aa S,0dk ri ft ac aa C,5R",
  "1CD,1WZ,0COPYLEFT au,0fb ft ac aa A,4B,4C,4D,4E,4F,4G,4H,4I,4J,4K,4L,4M,4N,4O,4P,4Q,4R,4S,4T",
  "4U,4V,4W,4X,4Y,4Z,1HV,1MV,1SD,1SS,1PPV,1WC,0jf dk ft ac aa A,5B,5C,5D,5E,5F,5G,5H,5I,5J,5K,5L",
  "5M,5N,5O,5P,5Q,5R,5S,5T,5U,5V,5W,5X,5Y,5Z,0ig MC ak,1MD ak,1MR ak,0dk CC,1C ab OVERLAID pg",
  "1HUMAN FIGURE,0jf fb ft ac aa A,5B,5C,5D,5E,5F,5G,5H,5I,5J,5K,5L,5M,5N,5O,5P,5Q,5R,5S,5T,5U",
  "5V,5W,5X,5Y,5Z,0ln jf fb ft ac aa P,0jf fb IC,2PA,2SA,2AB,2WC,0bn DJ,0fb CL,1COOL,1FREE,1ID",
  "1NEW,1NG,1OK,1SOS,1UP ab dw bj,1VS,1aw D,1SECOND SCREEN,1co K,1bt K,1br K,1by tk cs,1bv tk cs",
  "1TWENTY-TWO tk co,1ou P,1cs az fl P,1ft ad aa D,1HC,1HDR,1HI-RES,1LOSSLESS,1SHV,1UHD,1VOD",
  "0MASK WORK au,1f1e6=0REGIONAL nj au aa A,4B,4C,4D,4E,4F,4G,4H,4I,4J,4K,4L,4M,4N,4O,4P,4Q,4R",
  "4S,4T,4U,4V,4W,4X,4Y,4Z,0bn uj HOKA,0fb li KOKO,2SA,1f210=1CJK UNIFIED IDEOGRAPH-624B",
  "3IDEOGRAPH-5B57,3IDEOGRAPH-53CC,1li DE,1CJK UNIFIED IDEOGRAPH-4E8C,3IDEOGRAPH-591A",
  "3IDEOGRAPH-89E3,3IDEOGRAPH-5929,3IDEOGRAPH-4EA4,3IDEOGRAPH-6620,3IDEOGRAPH-7121",
  "3IDEOGRAPH-6599,3IDEOGRAPH-524D,3IDEOGRAPH-5F8C,3IDEOGRAPH-518D,3IDEOGRAPH-65B0",
  "3IDEOGRAPH-521D,3IDEOGRAPH-7D42,3IDEOGRAPH-751F,3IDEOGRAPH-8CA9,3IDEOGRAPH-58F0",
  "3IDEOGRAPH-5439,3IDEOGRAPH-6F14,3IDEOGRAPH-6295,3IDEOGRAPH-6355,3IDEOGRAPH-4E00",
  "3IDEOGRAPH-4E09,3IDEOGRAPH-904A,3IDEOGRAPH-5DE6,3IDEOGRAPH-4E2D,3IDEOGRAPH-53F3",
  "3IDEOGRAPH-6307,3IDEOGRAPH-8D70,3IDEOGRAPH-6253,3IDEOGRAPH-7981,3IDEOGRAPH-7A7A",
  "3IDEOGRAPH-5408,3IDEOGRAPH-6E80,3IDEOGRAPH-6709,3IDEOGRAPH-6708,3IDEOGRAPH-7533",
  "3IDEOGRAPH-5272,3IDEOGRAPH-55B6,3IDEOGRAPH-914D",
  "1f240=0ib ky BRACKETED CJK UNIFIED IDEOGRAPH-672C,5IDEOGRAPH-4E09,5IDEOGRAPH-4E8C",
  "5IDEOGRAPH-5B89,5IDEOGRAPH-70B9,5IDEOGRAPH-6253,5IDEOGRAPH-76D7,5IDEOGRAPH-52DD",
  "5IDEOGRAPH-6557,1f250=0dk IDEOGRAPH ADVANTAGE,2ACCEPT,1f260=0pc au to FU,3LU,3SHOU,3XI",
  "3SHUANGXI,3CAI,1f300=0CYCLONE,0FOGGY,0gl zt,0NIGHT ab STARS,0SUNRISE dy MOUNTAINS,1",
  "0CITYSCAPE AT DUSK,0SUNSET dy BUILDINGS,0RAINBOW,0BRIDGE AT NIGHT,0tm rn,0VOLCANO,0MILKY WAY",
  "0rq GLOBE EUROPE-AFRICA,2AMERICAS,2ASIA-AUSTRALIA,0GLOBE ab MERIDIANS,0NEW oo au",
  "0WAXING ua oo au,0FIRST fj oo au,0WAXING GIBBOUS oo au,0if oo au,0WANING GIBBOUS oo au",
  "0LAST fj oo au,0WANING ua oo au,0ua oo,0NEW oo ab ds,0FIRST fj oo ab ds,0LAST fj oo ab ds",
  "0if oo ab ds,0SUN ab ds,0GLOWING hk,0SHOOTING hk,0THERMOMETER,0ax DROPLET,0bc SUN",
  "2ab ad CLOUD,2BEHIND CLOUD,4ab RAIN,0CLOUD ab RAIN,2SNOW,2LIGHTNING,2TORNADO,0FOG",
  "0WIND BLOWING ds,0HOT DOG,0TACO,0BURRITO,0CHESTNUT,0SEEDLING,0EVERGREEN TREE,0DECIDUOUS TREE",
  "0PALM TREE,0CACTUS,0HOT PEPPER,0TULIP,0CHERRY BLOSSOM,0ROSE,0HIBISCUS,0SUNFLOWER,0BLOSSOM",
  "0EAR OF MAIZE,2RICE,0HERB,0bt rj CLOVER,0MAPLE rj,0FALLEN rj,0rj FLUTTERING IN WIND,0MUSHROOM",
  "0TOMATO,0AUBERGINE,0GRAPES,0MELON,0WATERMELON,0TANGERINE,0LEMON,0BANANA,0PINEAPPLE,0RED APPLE",
  "0GREEN APPLE,0PEAR,0PEACH,0CHERRIES,0STRAWBERRY,0HAMBURGER,0SLICE OF PIZZA,0MEAT ON BONE",
  "0POULTRY LEG,0RICE CRACKER,1BALL,0COOKED RICE,0CURRY bi RICE,0STEAMING BOWL,0SPAGHETTI,0BREAD",
  "0FRENCH FRIES,0ROASTED SWEET POTATO,0DANGO,0ODEN,0SUSHI,0FRIED SHRIMP",
  "0FISH CAKE ab SWIRL DESIGN,0SOFT ICE CREAM,0SHAVED ICE,0ICE CREAM,0DOUGHNUT,0COOKIE",
  "0CHOCOLATE ge,0CANDY,0LOLLIPOP,0CUSTARD,0HONEY POT,0SHORTCAKE,0BENTO BOX,0POT OF FOOD",
  "0COOKING,0FORK bi KNIFE,0TEACUP WITHOUT HANDLE,0SAKE BOTTLE bi CUP,0WINE GLASS",
  "0COCKTAIL GLASS,0TROPICAL DRINK,0BEER MUG,0CLINKING BEER MUGS,0BABY BOTTLE",
  "0FORK bi KNIFE ab PLATE,0BOTTLE ab POPPING CORK,0POPCORN,0RIBBON,0WRAPPED PRESENT",
  "0BIRTHDAY CAKE,0JACK-O-LANTERN,0CHRISTMAS TREE,0FATHER CHRISTMAS,0FIREWORKS",
  "0FIREWORK SPARKLER,0BALLOON,0PARTY POPPER,0CONFETTI BALL,0TANABATA TREE,0ln FLAGS",
  "0PINE DECORATION,0ru DOLLS,0CARP STREAMER,0WIND CHIME,0oo VIEWING CEREMONY,0SCHOOL SATCHEL",
  "0GRADUATION CAP,0jm ab TIP ON tr av,0BOUQUET OF FLOWERS,0MILITARY MEDAL,0REMINDER RIBBON",
  "0mr yt ab JACKS,0STUDIO MICROPHONE,0LEVEL SLIDER,0CONTROL KNOBS,0BEAMED ASCENDING mr NOTES",
  "1DESCENDING mr NOTES,0FILM FRAMES,0ADMISSION TICKETS,0CAROUSEL HORSE,0FERRIS WHEEL",
  "0ROLLER COASTER,0FISHING POLE bi FISH,0MICROPHONE,0MOVIE CAMERA,0CINEMA,0HEADPHONE",
  "0ARTIST PALETTE,0sb HAT,0CIRCUS TENT,0TICKET,0CLAPPER BOARD,0PERFORMING ARTS,0VIDEO GAME",
  "0DIRECT HIT,0SLOT MACHINE,0BILLIARDS,0GAME DIE,0BOWLING,0FLOWER PLAYING CARDS,0mr st",
  "0kd mr NOTES,0SAXOPHONE,0GUITAR,0mr yt,0TRUMPET,0VIOLIN,0mr SCORE,0RUNNING SHIRT ab SASH",
  "0TENNIS RACQUET bi BALL,0SKI bi SKI BOOT,0BASKETBALL bi HOOP,0CHEQUERED FLAG,0SNOWBOARDER",
  "0RUNNER,0SURFER,0SPORTS MEDAL,0TROPHY,0HORSE RACING,0AMERICAN FOOTBALL,0RUGBY FOOTBALL",
  "0SWIMMER,0WEIGHT LIFTER,0GOLFER,0RACING MOTORCYCLE,1CAR,0CRICKET BAT bi BALL,0VOLLEYBALL",
  "0FIELD HOCKEY STICK bi BALL,0ICE HOCKEY STICK bi PUCK,0TABLE TENNIS PADDLE bi BALL",
  "0SNOW CAPPED qa,0CAMPING,0BEACH ab zt,0xv xy,0HOUSE BUILDINGS,0CITYSCAPE,0DERELICT HOUSE xv",
  "0CLASSICAL xv,0DESERT,1ISLAND,0NATIONAL PARK,0STADIUM,0HOUSE xv,1ab GARDEN,0OFFICE xv",
  "0ru POST OFFICE,0EUROPEAN POST OFFICE,0HOSPITAL,0BANK,0AUTOMATED TELLER MACHINE,0HOTEL",
  "0LOVE HOTEL,0CONVENIENCE STORE,0SCHOOL,0DEPARTMENT STORE,0FACTORY,0IZAKAYA LANTERN,0ru CASTLE",
  "0EUROPEAN CASTLE,0bc PENNANT,0ax PENNANT,0WAVING bc FLAG,1ax FLAG,0ROSETTE,0ax ROSETTE,0LABEL",
  "0BADMINTON RACQUET bi SHUTTLECOCK,0BOW bi ae,0AMPHORA,0EMOJI ev FITZPATRICK TYPE-1-2,3TYPE-3",
  "3TYPE-4,3TYPE-5,3TYPE-6,0RAT,0MOUSE,0OX,0tm BUFFALO,0COW,0TIGER,0LEOPARD,0RABBIT,0CAT,0wp",
  "0CROCODILE,0WHALE,0SNAIL,0SNAKE,0HORSE,0RAM,0GOAT,0SHEEP,0MONKEY,0ROOSTER,0CHICKEN,0DOG,0PIG",
  "0BOAR,0ELEPHANT,0OCTOPUS,0SPIRAL ky,0BUG,0ANT,0HONEYBEE,0LADY BEETLE,0FISH,0TROPICAL FISH",
  "0BLOWFISH,0TURTLE,0HATCHING CHICK,0BABY CHICK,0FRONT-FACING BABY CHICK,0BIRD,0PENGUIN,0KOALA",
  "0POODLE,0DROMEDARY CAMEL,0BACTRIAN CAMEL,0DOLPHIN,0MOUSE ds,0COW ds,0TIGER ds,0RABBIT ds",
  "0CAT ds,0wp ds,0SPOUTING WHALE,0HORSE ds,0MONKEY ds,0DOG ds,0PIG ds,0FROG ds,0HAMSTER ds",
  "0WOLF ds,0BEAR ds,0PANDA ds,0PIG NOSE,0PAW PRINTS,0CHIPMUNK,0rs,0EYE,0EAR,0NOSE,0md,0TONGUE",
  "0bc UP cb pk ck,1dg cb pk ck,1av cb pk ck,1ai cb pk ck,0FISTED mf ak,0WAVING mf ak,0OK mf ak",
  "0THUMBS UP ak,1dg ak,0CLAPPING HANDS ak,0fg HANDS ak,0CROWN,0WOMANS HAT,0EYEGLASSES,0NECKTIE",
  "0T-SHIRT,0JEANS,0DRESS,0KIMONO,0BIKINI,0WOMANS CLOTHES,0PURSE,0HANDBAG,0POUCH,0MANS SHOE",
  "0ATHLETIC SHOE,0HIGH-HEELED SHOE,0WOMANS SANDAL,1BOOTS,0FOOTPRINTS,0BUST IN xi,0BUSTS IN xi",
  "0BOY,0GIRL,0MAN,0WOMAN,0FAMILY,0MAN bi WOMAN yn HANDS,0co MEN yn HANDS,1WOMEN yn HANDS",
  "0POLICE OFFICER,0WOMAN ab BUNNY EARS,0BRIDE ab VEIL,0ly ab BLOND HAIR,0MAN ab GUA PI MAO",
  "2TURBAN,0OLDER MAN,1WOMAN,0BABY,0xy WORKER,0PRINCESS,0ru OGRE,1GOBLIN,0GHOST,0BABY ANGEL",
  "0EXTRATERRESTRIAL ALIEN,0ALIEN MONSTER,0IMP,0SKULL,0INFORMATION DESK ly,0GUARDSMAN,0DANCER",
  "0LIPSTICK,0NAIL POLISH,0ds MASSAGE,0HAIRCUT,0BARBER POLE,0SYRINGE,0PILL,0KISS bj,0LOVE aa,0ei",
  "0GEM STONE,0KISS,0BOUQUET,0COUPLE ab jm,0WEDDING,0BEATING jm,0BROKEN jm,0co ld,0SPARKLING jm",
  "0GROWING jm,0jm ab ae,0BLUE jm,0GREEN jm,0YELLOW jm,0PURPLE jm,0jm ab RIBBON,0REVOLVING ld",
  "0jm DECORATION,0ej SHAPE ab A cz kl,0ELECTRIC cl BULB,0ANGER au,0BOMB,0SLEEPING au",
  "0COLLISION au,0SPLASHING SWEAT au,0DROPLET,0jw au,0PILE OF POO,0FLEXED BICEPS,0DIZZY au",
  "0SPEECH BALLOON,0THOUGHT BALLOON,0bc FLOWER,0az POINTS au,0MONEY BAG,0yb EXCHANGE",
  "0bl DOLLAR ak,0CREDIT CARD,0BANKNOTE ab YEN ak,2DOLLAR ak,2EURO ak,2POUND ak,0MONEY ab WINGS",
  "0CHART ab bp TREND bi YEN ak,0SEAT,0PERSONAL COMPUTER,0BRIEFCASE,0MINIDISC,0FLOPPY DISK",
  "0OPTICAL DISC,0DVD,0FILE FOLDER,0fg FILE FOLDER,0PAGE ab rf,1FACING UP,0CALENDAR",
  "0TEAR-OFF CALENDAR,0CARD ck,0CHART ab bp TREND,2ay TREND,0ge CHART,0CLIPBOARD,0PUSHPIN",
  "0va PUSHPIN,0PAPERCLIP,0gj RULER,0ez RULER,0BOOKMARK TABS,0LEDGER,0NOTEBOOK",
  "1ab DECORATIVE COVER,0gl BOOK,0fg BOOK,0GREEN BOOK,0BLUE BOOK,0ORANGE BOOK,0BOOKS,0NAME BADGE",
  "0SCROLL,0MEMO,0ju RECEIVER,0PAGER,0FAX MACHINE,0SATELLITE ANTENNA,0PUBLIC ADDRESS LOUDSPEAKER",
  "0CHEERING MEGAPHONE,0OUTBOX TRAY,0INBOX TRAY,0PACKAGE,0E-MAIL au,0INCOMING oc,0oc ab ay ae aj",
  "0gl MAILBOX ab LOWERED FLAG,3ig FLAG,0fg MAILBOX ab ig FLAG,3LOWERED FLAG,0POSTBOX,0POSTAL le",
  "0NEWSPAPER,0MOBILE PHONE,2ab ah ae AT av,0VIBRATION MODE,0MOBILE PHONE OFF,0NO MOBILE PHONES",
  "0ANTENNA ab BARS,0CAMERA,1ab FLASH,0VIDEO CAMERA,0TELEVISION,0RADIO,0VIDEOCASSETTE",
  "0FILM PROJECTOR,0PORTABLE STEREO,0PRAYER BEADS,0TWISTED ah lu,0iy ah bi am fg bo lu",
  "7ab dk cs ho,1ay bi bp fg bo lu,0ek ay bi bp fg bo lu,0is BRIGHTNESS au,0fz BRIGHTNESS au",
  "0SPEAKER ab sh at,1,1ab cs ov rn,2aw ov WAVES,0BATTERY,0ELECTRIC PLUG,0eb MAGNIFYING GLASS",
  "0da MAGNIFYING GLASS,0LOCK ab INK PEN,0gl LOCK ab KEY,0KEY,0LOCK,0fg LOCK,0BELL,1ab sh at",
  "0BOOKMARK,0LINK au,0RADIO BUTTON,0BACK ab am ae aj,0yh ab am ae aj",
  "0ON ab dw bj ab av ai ae aj,0SOON ab ah ae aj,0sb ab bp ae aj,0NO cs UNDER ob au,0KEYCAP jx",
  "0INPUT au to ft ac LETTERS,4ad LETTERS,3NUMBERS,3SYMBOLS,3ft LETTERS,0FIRE,0ELECTRIC TORCH",
  "0WRENCH,0HAMMER,0NUT bi BOLT,0HOCHO,0PISTOL,0MICROSCOPE,0TELESCOPE,0CRYSTAL BALL",
  "0fx fa hk ab bb cz,0ru au to BEGINNER,0TRIDENT EMBLEM,0ax bn BUTTON,0bc bn BUTTON,0ee RED bo",
  "1BLUE bo,1ORANGE ej,1BLUE ej,0ad ORANGE ej,1BLUE ej,0hd RED bg,0gu RED bg,0hd ad RED bg",
  "0gu ad RED bg,0cu ai kg bc bo,0dr ai kg bc bo,0dk gr POMMEE,0gr POMMEE ab HALF-CIRCLE aq,2",
  "0ra av sx ab aw du,1ai sx ab aw du,0au to MARKS CHAPTER,0bc ft gr,0bl ft gr,0CELTIC gr,0OM au",
  "0DOVE OF PEACE,0KAABA,0MOSQUE,0SYNAGOGUE,0MENORAH ab dm BRANCHES,0BOWL OF HYGIEIA",
  "0CLOCK ds cs qe,2co qe,2aw qe,2bt qe,2by qe,2fx qe,2bv qe,2br qe,2dm qe,2jx qe,2pr qe,2np qe",
  "2ONE-THIRTY,2TWO-THIRTY,2THREE-THIRTY,2FOUR-THIRTY,2FIVE-THIRTY,2SIX-THIRTY,2SEVEN-THIRTY",
  "2EIGHT-THIRTY,2NINE-THIRTY,2TEN-THIRTY,2ELEVEN-THIRTY,2TWELVE-THIRTY,0ai SPEAKER,2ab cs ov rn",
  "3aw ov WAVES,0BULLHORN,1ab ov WAVES,0RINGING BELL,0BOOK,0CANDLE,0MANTELPIECE CLOCK",
  "0ax SKULL bi CROSSBONES,0NO PIRACY,0HOLE,0MAN IN BUSINESS SUIT LEVITATING,0SLEUTH OR SPY",
  "0DARK SUNGLASSES,0SPIDER,1WEB,0JOYSTICK,0MAN DANCING,0av mf ju RECEIVER,0ju RECEIVER ab PAGE",
  "0ai mf ju RECEIVER,0bc TOUCHTONE ju,0ax TOUCHTONE ju,0ju ON sb OF MODEM",
  "0CLAMSHELL MOBILE PHONE,0BACK OF oc,0STAMPED oc,0oc ab LIGHTNING,0FLYING oc",
  "0PEN dy STAMPED oc,0LINKED PAPERCLIPS,0ax PUSHPIN,0cu av PENCIL,2BALLPOINT PEN,2FOUNTAIN PEN",
  "2PAINTBRUSH,2CRAYON,0av WRITING mf,0ci OK mf ak,0ig mf ab hh SPLAYED,0bq ig mf ab hh SPLAYED",
  "1THUMBS UP ak,2dg ak,1VICTORY mf,1mf ab bb ws pu,0ig mf ab PART jn bb bi ei hh",
  "0bc dg cb av mf ck,0ok bc av cb ck,2ai cb ck,1ax av cb ck,2ai cb ck,0ax av cb pk ck",
  "1ai cb pk ck,0ok bc UP cb ck,2dg cb ck,1ax UP cb ck,2dg cb ck,0ax UP cb pk ck,1dg cb pk ck",
  "1jm,0DESKTOP COMPUTER,0yt bi MOUSE,0aw NETWORKED COMPUTERS,0PRINTER,0POCKET CALCULATOR",
  "0ax HARD ky FLOPPY DISK,0bc HARD ky FLOPPY DISK,0SOFT ky FLOPPY DISK,0TAPE CARTRIDGE",
  "0WIRED yt,0cs BUTTON MOUSE,0co BUTTON MOUSE,0aw BUTTON MOUSE,0TRACKBALL,0oh PERSONAL COMPUTER",
  "0HARD DISK,0SCREEN,0PRINTER ICON,0FAX ICON,0OPTICAL DISC ICON,0DOCUMENT ab TEXT,3bi PICTURE",
  "2PICTURE,0FRAME ab PICTURE,2TILES,2AN X,0ax FOLDER,0FOLDER,0fg FOLDER,0CARD ck DIVIDERS",
  "1FILE BOX,0FILE CABINET,0EMPTY st,2PAGE,2PAD,0st,1PAGE,1PAD,0EMPTY DOCUMENT,1PAGE,1PAGES",
  "0DOCUMENT,0PAGE,0PAGES,0WASTEBASKET,0SPIRAL st PAD,1CALENDAR PAD,0DESKTOP WINDOW,0MINIMIZE",
  "0MAXIMIZE,0OVERLAP,0iy ai bi av sx lu,0sh X,0INCREASE FONT SIZE au,0DECREASE FONT SIZE au",
  "0COMPRESSION,0oh KEY,0ROLLED-UP NEWSPAPER,0PAGE ab dk TEXT,0STOCK CHART,0DAGGER KNIFE,0LIPS",
  "0SPEAKING tp IN xi,0aw RAYS aj,2aq,2av,2ai,0av SPEECH ty,0ai SPEECH ty,0co SPEECH BUBBLES",
  "0aw SPEECH BUBBLES,0av THOUGHT ty,0ai THOUGHT ty,0av ANGER ty,0ai ANGER ty,0MOOD ty",
  "0LIGHTNING MOOD ty,2,0BALLOT BOX ab BALLOT,1it X,1BOX ab it X,1mz it X,1BOX ab mz it X",
  "0cl tz bj,0BALLOT BOX ab mz tz,0WORLD MAP,0MOUNT FUJI,0TOKYO TOWER,0STATUE OF LIBERTY",
  "0xi OF JAPAN,0MOYAI,0GRINNING ds,2ab jq rs,0ds ab TEARS OF JOY,0jq ds ab fg md,5bi jq rs",
  "6COLD SWEAT,6TIGHTLY-CLOSED rs,3HALO,3HORNS,0WINKING ds,0jq ds ab jq rs",
  "0ds SAVOURING DELICIOUS FOOD,0RELIEVED ds,0jq ds ab HEART-SHAPED rs,3SUNGLASSES,0SMIRKING ds",
  "0hu ds,0EXPRESSIONLESS ds,0UNAMUSED ds,0ds ab COLD SWEAT,0PENSIVE ds,0CONFUSED ds",
  "0CONFOUNDED ds,0KISSING ds,0ds THROWING A KISS,0KISSING ds ab jq rs,3gl rs",
  "0ds ab STUCK-OUT TONGUE,4bi WINKING EYE,5TIGHTLY-CLOSED rs,0DISAPPOINTED ds,0WORRIED ds",
  "0ANGRY ds,0POUTING ds,0CRYING ds,0PERSEVERING ds,0ds ab LOOK OF TRIUMPH",
  "0DISAPPOINTED BUT RELIEVED ds,0FROWNING ds ab fg md,0ANGUISHED ds,0FEARFUL ds,0WEARY ds",
  "0SLEEPY ds,0TIRED ds,0GRIMACING ds,0LOUDLY CRYING ds,0ds ab fg md,0HUSHED ds",
  "0ds ab fg md bi COLD SWEAT,1SCREAMING IN FEAR,0ASTONISHED ds,0FLUSHED ds,0SLEEPING ds",
  "0DIZZY ds,0ds WITHOUT md,1ab MEDICAL MASK,0GRINNING CAT ds ab jq rs,0CAT ds ab TEARS OF JOY",
  "0jq CAT ds ab fg md,4HEART-SHAPED rs,0CAT ds ab WRY SMILE,0KISSING CAT ds ab gl rs",
  "0POUTING CAT ds,0CRYING CAT ds,0WEARY CAT ds,0SLIGHTLY FROWNING ds,1jq ds,0UPSIDE-DOWN ds",
  "0ds ab ROLLING rs,2NO GOOD GESTURE,2OK GESTURE,0ly BOWING DEEPLY,0SEE-NO-EVIL MONKEY",
  "0HEAR-NO-EVIL MONKEY,0SPEAK-NO-EVIL MONKEY,0HAPPY ly RAISING cs mf",
  "0ly RAISING BOTH HANDS IN CELEBRATION,1FROWNING,1ab POUTING ds,2FOLDED HANDS,0gi ic cb rj",
  "0gy ic cb rj,0gi hc cb rj,0gy hc cb rj,0ci gi ic cb rj,1gy ic cb rj,1gi hc cb rj,1gy hc cb rj",
  "0gi ic cb VINE rj,0gy ic cb VINE rj,0gi hc cb VINE rj,0gy hc cb VINE rj,0bl gi ic cb VINE rj",
  "1gy ic cb VINE rj,1gi hc cb VINE rj,1gy hc cb VINE rj,0gi ic cb BUD,0gy ic cb BUD",
  "0gi hc cb BUD,0gy hc cb BUD,0bl gi ic cb BUD,1gy ic cb BUD,1gi hc cb BUD,1gy hc cb BUD",
  "0HOLLOW QUILT bn cn,4IN ax bn,0SOLID QUILT bn cn,4IN ax bn,0am ROCKET,0bp ROCKET,0ah ROCKET",
  "0ay ROCKET,0it el ET cn,0bl it el ET cn,0el fg ET cn,0bl el fg ET cn,1nd cn,0SWASH nd cn",
  "0er bl al ci et eg bj cn,3et eg bj cn,2is al et eg bj cn,0bl qx cn,0er qx cn,0bl er qx cn",
  "0nr bl hj,2ie hj,0CHECKER BOARD,0ie CHECKER BOARD,0ROCKET,0HELICOPTER,0STEAM LOCOMOTIVE",
  "0RAILWAY CAR,0HIGH-SPEED TRAIN,2ab ne NOSE,0TRAIN,0METRO,0cl RAIL,0STATION,0TRAM,1CAR,0BUS",
  "0za BUS,0TROLLEYBUS,0BUS gd,0MINIBUS,0AMBULANCE,0FIRE ENGINE,0POLICE CAR,0za POLICE CAR,0TAXI",
  "0za TAXI,0AUTOMOBILE,0za AUTOMOBILE,0RECREATIONAL VEHICLE,0DELIVERY TRUCK,0ARTICULATED LORRY",
  "0TRACTOR,0MONORAIL,0qa RAILWAY,0SUSPENSION RAILWAY,0qa CABLEWAY,0AERIAL TRAMWAY,0SHIP",
  "0ROWBOAT,0SPEEDBOAT,0as TRAFFIC cl,0an TRAFFIC cl,0xy ak,0POLICE CARS REVOLVING cl",
  "0ez FLAG ON POST,0DOOR,0NO ENTRY ak,0SMOKING au,0NO SMOKING au,0PUT LITTER IN ITS PLACE au",
  "0DO mt LITTER au,0POTABLE tm au,0NON-POTABLE tm au,0BICYCLE,0NO BICYCLES,0BICYCLIST",
  "0qa BICYCLIST,0PEDESTRIAN,0NO PEDESTRIANS,0CHILDREN ep,0MENS au,0WOMENS au,0RESTROOM,0BABY au",
  "0TOILET,0tm CLOSET,0SHOWER,0BATH,0BATHTUB,0PASSPORT CONTROL,0CUSTOMS,0BAGGAGE CLAIM",
  "0av LUGGAGE,0bg ab pc ya,0PROHIBITED ak,0dk INFORMATION SOURCE,0BOYS au,0GIRLS au",
  "0COUCH bi LAMP,0SLEEPING ACCOMMODATION,0SHOPPING BAGS,0BELLHOP BELL,0BED,0PLACE OF WORSHIP",
  "0OCTAGONAL ak,0SHOPPING TROLLEY,0STUPA,0PAGODA,0HINDU TEMPLE,0HUT,0ELEVATOR",
  "1f6dd=0PLAYGROUND SLIDE,0WHEEL,0ei BUOY,0HAMMER bi WRENCH,0SHIELD,0OIL DRUM,0MOTORWAY",
  "0RAILWAY TRACK,0MOTOR BOAT,0hd MILITARY ro,1ro,1ad ro,0ad ro,0NORTHEAST-POINTING ro",
  "0ro DEPARTURE,1ARRIVING,1f6f0=0SATELLITE,0za FIRE ENGINE,0DIESEL LOCOMOTIVE,0PASSENGER SHIP",
  "0SCOOTER,0MOTOR SCOOTER,0CANOE,0SLED,0FLYING SAUCER,0SKATEBOARD,0AUTO RICKSHAW,0PICKUP TRUCK",
  "0ROLLER SKATE,1f700=0ALCHEMICAL au to QUINTESSENCE,3AIR,3FIRE,3rq,3tm,3AQUAFORTIS,3AQUA REGIA",
  "4REGIA-2,4VITAE,4VITAE-2,3VINEGAR,3VINEGAR-2,3VINEGAR-3,3SULFUR,3PHILOSOPHERS SULFUR",
  "3ax SULFUR,3MERCURY vu,4SUBLIMATE-2,4SUBLIMATE-3,3CINNABAR,3SALT,3NITRE,3VITRIOL,3VITRIOL-2",
  "3ROCK SALT,4SALT-2,3GOLD,3SILVER,3IRON ORE,4ORE-2,3CROCUS OF IRON,3REGULUS OF IRON",
  "3COPPER ORE,3IRON-COPPER ORE,3vu OF COPPER,3CROCUS OF COPPER,5COPPER-2,3COPPER ANTIMONIATE",
  "3SALT OF COPPER ANTIMONIATE,3vu OF SALT OF COPPER,3VERDIGRIS,3TIN ORE,3LEAD ORE,3tu ORE",
  "3vu OF tu,3SALT OF tu,3vu OF SALT OF tu,3VINEGAR OF tu,3REGULUS OF tu,5ANTIMONY-2,4",
  "3REGULUS-2,3REGULUS-3,3REGULUS-4,3ALKALI,3ALKALI-2,3MARCASITE,3SAL-AMMONIAC,3ARSENIC,3REALGAR",
  "3REALGAR-2,3AURIPIGMENT,3BISMUTH ORE,3TARTAR,3TARTAR-2,3QUICK LIME,3BORAX,3BORAX-2,3BORAX-3",
  "3ALUM,3OIL,3SPIRIT,3TINCTURE,3GUM,3WAX,3POWDER,3CALX,3TUTTY,3CAPUT MORTUUM,3SCEPTER OF JOVE",
  "3CADUCEUS,3TRIDENT,3STARRED TRIDENT,3LODESTONE,3SOAP,3URINE,3HORSE DUNG,3ASHES,3POT ASHES",
  "3BRICK,3POWDERED BRICK,3AMALGAM,3STRATUM SUPER STRATUM,5STRATUM-2,3SUBLIMATION,3PRECIPITATE",
  "3DISTILL,3DISSOLVE,3DISSOLVE-2,3PURIFY,3PUTREFACTION,3CRUCIBLE,3CRUCIBLE-2,3CRUCIBLE-3",
  "3CRUCIBLE-4,3CRUCIBLE-5,3ALEMBIC,3BATH OF MARY,5VAPOURS,3RETORT,3HOUR,3NIGHT,3DAY-NIGHT",
  "3MONTH,3dh DRAM,4OUNCE,1f780=0ax eb ISOSCELES ai bg,1hd ISOSCELES ai bg,1da ISOSCELES ai bg",
  "1gu ISOSCELES ai bg,1SLIGHTLY ad bo,0ce mz bc bo,0mz bc bo,0bl bc bo,0nr bl bc bo",
  "0rr bl bc bo,0bc bo nf ax ad bo,0va TARGET,0ax TINY bn,1SLIGHTLY ad bn,0cl bc bn,0ce bc bn",
  "0mz bc bn,0bl bc bn,0nr bl bc bn,0rr bl bc bn,0bc bn nf ax nr ad bn,4ce bn,0bn TARGET",
  "0ax TINY ej,1nr ad ej,1ce ad ej,0bc ej nf ax nr ad ej,4ce ej,0ej TARGET,0ax TINY lq,1nr ad lq",
  "1ce ad lq,0bc lq nf ax ad lq,0THIN kn gr,0cl kn gr,0ce kn gr,0mz kn gr,0nr mz kn gr,1bl kn gr",
  "0rr bl kn gr,0THIN ny,0cl ny,0ce ny,0mz ny,0bl ny,0nr bl ny,0rr bl ny,0cl by kz di",
  "0ce by kz di,0mz by kz di,0bl by kz di,0nr bl by kz di,0rr bl by kz di,0cl fx kz di",
  "0ce fx kz di,0mz fx kz di,0bl fx kz di,0nr bl fx kz di,0rr bl fx kz di,0cl br kz di",
  "0ce br kz di,0mz br kz di,0bl br kz di,0nr bl br kz di,0cl aw fa ax hk,0ce aw fa ax hk",
  "0aw fa ax hk,0ce aw fa oi hk,0cl bt fa ax hk,0ce bt fa ax hk,0bt fa ax hk,0ce bt fa oi hk",
  "0ie cl bt fa oi hk,0cl by fa ax hk,0bl by fa ax hk,0ce fx fa ax hk,0bl fx fa ax hk",
  "0fx fa oi hk,0ce br fa ax hk,0bl br fa ax hk,0nr bl br fa ax hk,0bl br fa oi hk",
  "0cl np fa ax hk,0bl np fa ax hk,3oi hk,0dk bg,0jf dk bg,0dk bn,0jf dk bn,1f7e0=0ee ORANGE bo",
  "1YELLOW bo,1GREEN bo,1PURPLE bo,1BROWN bo,1RED bn,1BLUE bn,1ORANGE bn,1YELLOW bn,1GREEN bn",
  "1PURPLE bn,1BROWN bn,1f7f0=0bl gn ak,1f800=0am ae ab ad bg bm,0bp ae ab ad bg bm",
  "0ah ae ab ad bg bm,0ay ae ab ad bg bm,0am ae ab ce bg bm,0bp ae ab ce bg bm",
  "0ah ae ab ce bg bm,0ay ae ab ce bg bm,0am ae ab ee bg bm,0bp ae ab ee bg bm",
  "0ah ae ab ee bg bm,0ay ae ab ee bg bm,1f810=0am ae ab ad ed bm,0bp ae ab ad ed bm",
  "0ah ae ab ad ed bm,0ay ae ab ad ed bm,0am ae ab ed bm,0bp ae ab ed bm,0ah ae ab ed bm",
  "0ay ae ab ed bm,0bl am ae ab ed bm,1bp ae ab ed bm,1ah ae ab ed bm,1ay ae ab ed bm",
  "1am ae ab ee ed bm,1bp ae ab ee ed bm,1ah ae ab ee ed bm,1ay ae ab ee ed bm",
  "0am ao ae ab NARROW lk,0bp ao ae ab NARROW lk,0ah ao ae ab NARROW lk,0ay ao ae ab NARROW lk",
  "0am ao ae ab ce lk,0bp ao ae ab ce lk,0ah ao ae ab ce lk,0ay ao ae ab ce lk",
  "0am ao ae ab mz lk,0bp ao ae ab mz lk,0ah ao ae ab mz lk,0ay ao ae ab mz lk",
  "0am ao ae ab bl lk,0bp ao ae ab bl lk,0ah ao ae ab bl lk,0ay ao ae ab bl lk",
  "0am ao ae ab nr bl lk,0bp ao ae ab nr bl lk,0ah ao ae ab nr bl lk,0ay ao ae ab nr bl lk",
  "0am uf ae,0bp uf ae,0ah uf ae,0ay uf ae,0am fb ae,0bp fb ae,0ah fb ae,0ay fb ae,0am lv ae",
  "0bp lv ae,0ah lv ae,0ay lv ae,0am bl lv ae,0bp bl lv ae,0ah bl lv ae,0ay bl lv ae,0am bl ae",
  "0bp bl ae,0ah bl ae,0ay bl ae,1f850=0am er ae,0bp er ae,0ah er ae,0ay er ae,0gi ic er ae",
  "1hc er ae,0gy hc er ae,1ic er ae,0av ai er ae,0UP dg er ae,1f860=0WIDE-HEADED am cl en ae",
  "1bp cl en ae,1ah cl en ae,1ay cl en ae,1gi ic cl en ae,2hc cl en ae,1gy hc cl en ae",
  "2ic cl en ae,1am en ae,1bp en ae,1ah en ae,1ay en ae,1gi ic en ae,2hc en ae,1gy hc en ae",
  "2ic en ae,1am ce en ae,1bp ce en ae,1ah ce en ae,1ay ce en ae,1gi ic ce en ae,2hc ce en ae",
  "1gy hc ce en ae,2ic ce en ae,1am bl en ae,1bp bl en ae,1ah bl en ae,1ay bl en ae",
  "1gi ic bl en ae,2hc bl en ae,1gy hc bl en ae,2ic bl en ae,1am nr bl en ae,1bp nr bl en ae",
  "1ah nr bl en ae,1ay nr bl en ae,1gi ic nr bl en ae,2hc nr bl en ae,1gy hc nr bl en ae",
  "2ic nr bl en ae,1f890=0am bg bm,0bp bg bm,0ah bg bm,0ay bg bm,0am bc ae WITHIN bg bm",
  "0bp bc ae WITHIN bg bm,0ah bc ae WITHIN bg bm,0ay bc ae WITHIN bg bm,0am ae ab ra hw",
  "0bp ae ab ra hw,0ah ae ab ra hw,0ay ae ab ra hw,0bl ae lk WIDTH cs,4co vh,4cs dh,5tl",
  "0am BOTTOM-SHADED bc ae,0ah gz SHADED bc ae,0am sb SHADED bc ae,0ah sb SHADED bc ae",
  "0am LEFT-SHADED bc ae,0ah zl bc ae,0am zl bc ae,0ah LEFT-SHADED bc ae",
  "0am BACK-TILTED kg bc ae,0ah BACK-TILTED kg bc ae,0am yk kg bc ae,0ah yk kg bc ae",
  "0bc ae lk WIDTH cs,4co vh,1f8b0=0ae cb bp THEN gi ic,2ah THEN CURVING gy ic",
  "1f900=0dk gr FORMEE ab bt du,4co du,3,0av dh bo ab bt du,4aw du,4co du,4cz,3",
  "0DOWNWARD FACING bw,2ra bw,2bw ab cz,2ra bw ab cz,0PINCHED hh,0bc jm,0BROWN jm,0PINCHING mf",
  "0ZIPPER-MOUTH ds,0MONEY-MOUTH ds,0ds ab THERMOMETER,0NERD ds,0THINKING ds,0ds ab HEAD-BANDAGE",
  "0ROBOT ds,0HUGGING ds,0ak OF tr HORNS,0CALL ME mf,0ig BACK OF mf,0up FIST,0sw FIST,0HANDSHAKE",
  "0mf ab ck bi bb hh ln,0I LOVE YOU mf ak,0ds ab COWBOY HAT,0CLOWN ds,0NAUSEATED ds",
  "0ROLLING ON tr yi LAUGHING,0DROOLING ds,0LYING ds,0ds PALM,0SNEEZING ds,0ds ab cs EYEBROW ig",
  "0GRINNING ds ab hk rs,3cs ee bi cs ad EYE,0ds ab ws COVERING gl LIPS",
  "0SERIOUS ds ab SYMBOLS COVERING md,0jq ds ab jq rs bi mf COVERING md,0ds ab fg md VOMITING",
  "0SHOCKED ds ab EXPLODING tp,0PREGNANT WOMAN,0BREAST-FEEDING,0PALMS UP TOGETHER,0SELFIE",
  "0PRINCE,0MAN IN TUXEDO,0MOTHER CHRISTMAS,0SHRUG,0ly DOING CARTWHEEL,0JUGGLING,0FENCER",
  "0MODERN PENTATHLON,0WRESTLERS,0tm POLO,0HANDBALL,0DIVING MASK,0WILTED FLOWER",
  "0DRUM ab DRUMSTICKS,0CLINKING GLASSES,0TUMBLER GLASS,0SPOON,0GOAL NET,0RIFLE",
  "0FIRST PLACE MEDAL,0SECOND PLACE MEDAL,0tl PLACE MEDAL,0BOXING GLOVE,0MARTIAL ARTS UNIFORM",
  "0CURLING STONE,0LACROSSE STICK bi BALL,0SOFTBALL,0FLYING DISC,0CROISSANT,0AVOCADO,0CUCUMBER",
  "0BACON,0POTATO,0CARROT,0BAGUETTE BREAD,0GREEN SALAD,0SHALLOW PAN OF FOOD,0STUFFED FLATBREAD",
  "0EGG,0GLASS OF MILK,0PEANUTS,0KIWIFRUIT,0PANCAKES,0DUMPLING,0FORTUNE COOKIE,0TAKEOUT BOX",
  "0CHOPSTICKS,0BOWL ab SPOON,0CUP ab STRAW,0COCONUT,0BROCCOLI,0PIE,0PRETZEL,0CUT OF MEAT",
  "0SANDWICH,0CANNED FOOD,0LEAFY GREEN,0MANGO,0oo CAKE,0BAGEL,0jq ds ab jq rs bi aw ld",
  "0YAWNING ds,0jq ds ab TEAR,0ds ab PARTY le bi PARTY HAT,2UNEVEN rs bi WAVY md,0OVERHEATED ds",
  "0FREEZING ds,0NINJA,0DISGUISED ds,0ds yn BACK TEARS,1ab PLEADING rs,0SARI,0LAB COAT,0GOGGLES",
  "0HIKING BOOT,0FLAT SHOE,0CRAB,0LION ds,0SCORPION,0TURKEY,0UNICORN ds,0EAGLE,0DUCK,0BAT,0SHARK",
  "0OWL,0FOX ds,0BUTTERFLY,0DEER,0GORILLA,0LIZARD,0RHINOCEROS,0SHRIMP,0SQUID,0GIRAFFE ds",
  "0ZEBRA ds,0HEDGEHOG,0SAUROPOD,0T-REX,0CRICKET,0KANGAROO,0LLAMA,0PEACOCK,0HIPPOPOTAMUS,0PARROT",
  "0RACCOON,0LOBSTER,0MOSQUITO,0MICROBE,0BADGER,0SWAN,0MAMMOTH,0DODO,0SLOTH,0OTTER,0ORANGUTAN",
  "0SKUNK,0FLAMINGO,0OYSTER,0BEAVER,0BISON,0SEAL,0GUIDE DOG,0PROBING CANE",
  "0EMOJI COMPONENT RED HAIR,2kc HAIR,2BALD,2bc HAIR,0BONE,0LEG,0FOOT,0TOOTH,0SUPERHERO",
  "0SUPERVILLAIN,0SAFETY VEST,0EAR ab HEARING AID,0MOTORIZED WHEELCHAIR,0MANUAL WHEELCHAIR",
  "0MECHANICAL ARM,1LEG,0CHEESE WEDGE,0CUPCAKE,0SALT SHAKER,0BEVERAGE BOX,0GARLIC,0ONION",
  "0FALAFEL,0WAFFLE,0BUTTER,0MATE DRINK,0ICE CUBE,0ty TEA,0TROLL,0STANDING ly,0KNEELING ly",
  "0DEAF ly,0ds ab MONOCLE,0ADULT,0CHILD,0OLDER ADULT,0BEARDED ly,0ly ab HEADSCARF",
  "1IN STEAMY ROOM,1CLIMBING,1IN LOTUS POSITION,0MAGE,0FAIRY,0VAMPIRE,0MERPERSON,0ELF,0GENIE",
  "0ZOMBIE,0BRAIN,0ORANGE jm,0BILLED CAP,0SCARF,0GLOVES,0COAT,0SOCKS,0RED GIFT oc,0FIRECRACKER",
  "0JIGSAW PUZZLE PIECE,0TEST TUBE,0PETRI qs,0DNA al HELIX,0COMPASS,0ABACUS,0FIRE EXTINGUISHER",
  "0TOOLBOX,0BRICK,0MAGNET,0LUGGAGE,0LOTION BOTTLE,0SPOOL OF THREAD,0BALL OF YARN,0SAFETY PIN",
  "0TEDDY BEAR,0BROOM,0BASKET,0ROLL OF PAPER,0ge OF SOAP,0SPONGE,0RECEIPT,0NAZAR AMULET",
  "0hu ip un,2qi,2ROOK,2pl,2ht,2PAWN,0bc ip ht cp FORTY-FIVE dn,0ax ip ht cp FORTY-FIVE dn",
  "0hu ip ht cp FORTY-FIVE dn,0bc ip un cp ga dn,2qi cp ga dn,2ROOK cp ga dn,2pl cp ga dn",
  "2ht cp ga dn,2PAWN cp ga dn,0ax ip un cp ga dn,2qi cp ga dn,2ROOK cp ga dn,2pl cp ga dn",
  "2ht cp ga dn,2PAWN cp ga dn,0hu ip un cp ga dn,2qi cp ga dn,2ROOK cp ga dn,2pl cp ga dn",
  "2ht cp ga dn,2PAWN cp ga dn,0bc ip ht cp cs az THIRTY-FIVE dn",
  "0ax ip ht cp cs az THIRTY-FIVE dn,0hu ip ht cp cs az THIRTY-FIVE dn,0bc ip ci un,3qi,3ROOK",
  "3pl,3ht,3PAWN,0ax ip ci un,3qi,3ROOK,3pl,3ht,3PAWN,0hu ip ci un,3qi,3ROOK,3pl,3ht,3PAWN",
  "0bc ip ht cp co az vk dn,0ax ip ht cp co az vk dn,0hu ip ht cp co az vk dn",
  "0bc ip un cp co az fe dn,2qi cp co az fe dn,2ROOK cp co az fe dn,2pl cp co az fe dn",
  "2ht cp co az fe dn,2PAWN cp co az fe dn,0ax ip un cp co az fe dn,2qi cp co az fe dn",
  "2ROOK cp co az fe dn,2pl cp co az fe dn,2ht cp co az fe dn,2PAWN cp co az fe dn",
  "0hu ip un cp co az fe dn,2qi cp co az fe dn,2ROOK cp co az fe dn,2pl cp co az fe dn",
  "2ht cp co az fe dn,2PAWN cp co az fe dn,0bc ip ht cp aw az nv dn,0ax ip ht cp aw az nv dn",
  "0hu ip ht cp aw az nv dn,0bc ip pt,0ax ip pt,0hu ip pt,0bc ip pt cp ga dn,0ax ip pt cp ga dn",
  "0hu ip pt cp ga dn,0bc ip KNIGHT-QUEEN,2KNIGHT-ROOK,2KNIGHT-BISHOP,0ax ip KNIGHT-QUEEN",
  "2KNIGHT-ROOK,2KNIGHT-BISHOP,1fa60=0XIANGQI RED GENERAL,2MANDARIN,2ELEPHANT,2HORSE,2CHARIOT",
  "2CANNON,2SOLDIER,1ax GENERAL,2MANDARIN,2ELEPHANT,2HORSE,2CHARIOT,2CANNON,2SOLDIER",
  "1fa70=0BALLET SHOES,0ONE-PIECE SWIMSUIT,0BRIEFS,0SHORTS,0THONG SANDAL,1fa78=0DROP OF BLOOD",
  "0ADHESIVE BANDAGE,0STETHOSCOPE,0X-RAY,0CRUTCH,1fa80=0YO-YO,0KITE,0PARACHUTE,0BOOMERANG",
  "0MAGIC WAND,0PINATA,0NESTING DOLLS,1fa90=0RINGED PLANET,0CHAIR,0RAZOR,0AXE,0DIYA LAMP,0BANJO",
  "0MILITARY HELMET,0ACCORDION,0fk DRUM,0COIN,0CARPENTRY SAW,0SCREWDRIVER,0LADDER,0bw,0MIRROR",
  "0WINDOW,0PLUNGER,0SEWING NEEDLE,0KNOT,0BUCKET,0MOUSE TRAP,0TOOTHBRUSH,0HEADSTONE,0PLACARD",
  "0ROCK,0MIRROR BALL,0IDENTIFICATION CARD,0is BATTERY,0HAMSA,1fab0=0FLY,0WORM,0BEETLE",
  "0COCKROACH,0POTTED PLANT,0WOOD,0FEATHER,0LOTUS,0CORAL,0EMPTY NEST,0NEST ab EGGS",
  "1fac0=0ANATOMICAL jm,0LUNGS,0PEOPLE HUGGING,0PREGNANT MAN,1ly,0ly ab CROWN,1fad0=0BLUEBERRIES",
  "0BELL PEPPER,0OLIVE,0FLATBREAD,0TAMALE,0FONDUE,0TEAPOT,0POURING LIQUID,0BEANS,0JAR",
  "1fae0=0MELTING ds,0SALUTING ds,0ds ab fg rs bi mf dy md,2PEEKING EYE,2dl md,0fy gv ds",
  "0BITING LIP,0BUBBLES,1faf0=0mf ab ck ws bi dt ln,0ah mf,0am mf,0PALM dg mf,1UP mf",
  "0ck cb AT tr VIEWER,0jm HANDS,1fb00=0ey SEXTANT-1,1SEXTANT-2,1SEXTANT-12,1SEXTANT-3",
  "1SEXTANT-13,1SEXTANT-23,1SEXTANT-123,1SEXTANT-4,1SEXTANT-14,1SEXTANT-24,1SEXTANT-124",
  "1SEXTANT-34,1SEXTANT-134,1SEXTANT-234,1SEXTANT-1234,1SEXTANT-5,1SEXTANT-15,1SEXTANT-25",
  "1SEXTANT-125,1SEXTANT-35,1SEXTANT-235,1SEXTANT-1235,1SEXTANT-45,1SEXTANT-145,1SEXTANT-245",
  "1SEXTANT-1245,1SEXTANT-345,1SEXTANT-1345,1SEXTANT-2345,1SEXTANT-12345,1SEXTANT-6,1SEXTANT-16",
  "1SEXTANT-26,1SEXTANT-126,1SEXTANT-36,1SEXTANT-136,1SEXTANT-236,1SEXTANT-1236,1SEXTANT-46",
  "1SEXTANT-146,1SEXTANT-1246,1SEXTANT-346,1SEXTANT-1346,1SEXTANT-2346,1SEXTANT-12346",
  "1SEXTANT-56,1SEXTANT-156,1SEXTANT-256,1SEXTANT-1256,1SEXTANT-356,1SEXTANT-1356,1SEXTANT-2356",
  "1SEXTANT-12356,1SEXTANT-456,1SEXTANT-1456,1SEXTANT-2456,1SEXTANT-12456,1SEXTANT-3456",
  "1SEXTANT-13456,1SEXTANT-23456,0cu av ey dl cu bb av TO cu dz,9ai,4dr bb av TO cu dz,9ai",
  "5av TO cu dz,1ai ey dl dr bb av TO dr dz,9ai,4cu bb av TO dr dz,9ai,5av TO dr dz",
  "5bb av TO dr bb ai,5dz TO cu bb ai,5av TO cu bb ai,5dz TO dr bb ai,5av TO dr bb ai",
  "5dz TO dr ai,1av ey dl dr dz TO dr bb ai,5av TO dr bb ai,5dz TO cu bb ai,5av TO cu bb ai",
  "5dz TO cu ai,5bb av TO cu bb ai,0dr ai ey dl cu bb av TO cu dz,9ai,4dr bb av TO cu dz,9ai",
  "5av TO cu dz,1av ey dl dr bb av TO dr dz,9ai,4cu bb av TO dr dz,9ai,5av TO dr dz",
  "5bb av TO dr bb ai,5dz TO cu bb ai,5av TO cu bb ai,5dz TO dr bb ai,5av TO dr bb ai",
  "5dz TO dr ai,1ai ey dl dr dz TO dr bb ai,5av TO dr bb ai,5dz TO cu bb ai,5av TO cu bb ai",
  "5dz TO cu ai,5bb av TO cu bb ai,1bi ai bi cu ez aw ji ey,0av bi cu bi ai ez aw ji ey",
  "0dr bi av bi cu ez aw ji ey,0av bi dr bi ai ez aw ji ey,1ez cs fj ey,0dr ez cs fj ey",
  "0ai ez cs fj ey,0cu ez cs fj ey,0an cs hy BLOCK-2,3BLOCK-3,3BLOCK-4,3BLOCK-5,3BLOCK-6",
  "3BLOCK-7,0as cs hy BLOCK-2,3BLOCK-3,3BLOCK-4,3BLOCK-5,3BLOCK-6,3BLOCK-7,0av bi cu cs hy ey",
  "2dr cs hy ey,0ai bi dr cs hy ey,2cu cs hy ey,0dr bi cu cs hy ey,0as cs hy BLOCK-1358",
  "0dr cs fj ey,1aw km ey,1by km ey,1aw ji ey,1bv km ey,0ai cs fj ey,1aw km ey,1by km ey",
  "1aw ji ey,1bv km ey,0av dh ce rd,0ai dh ce rd,0dr dh ce rd,0cu dh ce rd,0oz ce rd",
  "0dr dh ey bi cu dh oz ce rd,2oz ce rd bi cu dh ey,1fb94=0av dh oz ce rd bi ai dh ey",
  "0CHECKER BOARD FILL,0oz CHECKER BOARD FILL,0bl as FILL,0dr av TO cu ai FILL,1ai TO cu av FILL",
  "1bi cu ez dh ey,0av bi ai ez dh ey,0dr av ez ce rd,1ai ez ce rd,0cu ai ez ce rd,1av ez ce rd",
  "0BOX DRAWINGS cl dl dr dz TO bb av,8ai,4bb av TO cu dz,5ai TO cu dz,4dr dz TO bb av TO cu dz",
  "8ai TO cu dz,4bb av TO cu dz TO bb ai,7dr dz TO bb ai,4dr dz TO bb av bi bb ai TO cu dz",
  "8ai bi bb av TO cu dz,9TO cu dz TO bb av,8av TO cu dz TO bb ai",
  "4bb av TO dr dz TO bb ai TO cu dz,5ai TO dr dz TO bb av TO cu dz,4ej,3as ab an at",
  "0ARROWHEAD-SHAPED POINTER,0oz tz bj,0av dh RUNNING MAN,0ai dh RUNNING MAN,0oz ay ae ab TIP am",
  "0am ae bi dr bi cu cs hy ey,0ah ae bi dr bi cu cs hy ey,0ay ae bi ai cs hy ey",
  "0bp ae bi ai cs hy ey,0av dh FOLDER,0ai dh FOLDER,0VOIDED kn gr,0ai fg fb cz,0jf dl gr",
  "2bb ai TO cu dz,2ej,0bc bl ny ab pc ya,0av tl bc ai cb ck,0bb tl bc ai cb ck",
  "0ai tl bc ai cb ck,0jf fb fc bj,0STICK FIGURE,2ab ARMS ig,2LEANING av,3ai,2ab DRESS",
  "0bc hd CHEVRON,1fbf0=0SEGMENTED cr ex,2cs,2co,2aw,2bt,2by,2fx,2bv,2br,2dm,e0001=0LANGUAGE TAG",
  "e0020=0TAG ll,1dw bj,1eg bj,1dq ak,1DOLLAR ak,1PERCENT ak,1nd,1ku,1av cd,1ai cd,1di,1cy ak",
  "1et,1sn,1if gd,1hj,1cr ex,2cs,2co,2aw,2bt,2by,2fx,2bv,2br,2dm,1iw,1jt,1bu ak,1gn ak,1bh ak",
  "1fc bj,1sk AT,1ft ac aa A,4B,4C,4D,4E,4F,4G,4H,4I,4J,4K,4L,4M,4N,4O,4P,4Q,4R,4S,4T,4U,4V,4W",
  "4X,4Y,4Z,1av bn bd,1ie hj,1ai bn bd,1be fs,1is gv,1ef fs,1ft ad aa A,4B,4C,4D,4E,4F,4G,4H,4I",
  "4J,4K,4L,4M,4N,4O,4P,4Q,4R,4S,4T,4U,4V,4W,4X,4Y,4Z,1av kc bd,1an gv,1ai kc bd,1cq,0CANCEL TAG"]

/-- Further names of characters. -/
def otherNameRows : List String := [
  "0=NULL,0=NUL,1=START OF HEADING,1=SOH,2=START OF TEXT,2=STX,3=END OF TEXT,3=ETX",
  "4=END OF TRANSMISSION,4=EOT,5=ENQUIRY,5=ENQ,6=ACKNOWLEDGE,6=ACK,7=ALERT,7=BEL,8=BACKSPACE",
  "8=BS,9=CHARACTER TABULATION,9=HORIZONTAL TABULATION,9=HT,9=TAB,a=LINE FEED,a=NEW LINE",
  "a=END OF LINE,a=EOL,a=LF,a=NL,b=LINE TABULATION,b=VERTICAL TABULATION,b=VT,c=FORM FEED,c=FF",
  "d=CARRIAGE RETURN,d=CR,e=SHIFT OUT,e=LOCKING-SHIFT ONE,e=SO,f=SHIFT IN,f=LOCKING-SHIFT ZERO",
  "f=SI,10=DATA LINK ESCAPE,10=DLE,11=DEVICE CONTROL ONE,11=DC1,12=DEVICE CONTROL TWO,12=DC2",
  "13=DEVICE CONTROL THREE,13=DC3,14=DEVICE CONTROL FOUR,14=DC4,15=NEGATIVE ACKNOWLEDGE,15=NAK",
  "16=SYNCHRONOUS IDLE,16=SYN,17=END OF TRANSMISSION BLOCK,17=ETB,18=CANCEL,18=CAN",
  "19=END OF MEDIUM,19=EOM,1a=SUBSTITUTE,1a=SUB,1b=ESCAPE,1b=ESC,1c=INFORMATION SEPARATOR FOUR",
  "1c=FILE SEPARATOR,1c=FS,1d=INFORMATION SEPARATOR THREE,1d=GROUP SEPARATOR,1d=GS",
  "1e=INFORMATION SEPARATOR TWO,1e=RECORD SEPARATOR,1e=RS,1f=INFORMATION SEPARATOR ONE",
  "1f=UNIT SEPARATOR,1f=US,20=SP,7f=DELETE,7f=DEL,80=PADDING CHARACTER,80=PAD",
  "81=HIGH OCTET PRESET,81=HOP,82=BREAK PERMITTED HERE,82=BPH,83=NO BREAK HERE,83=NBH,84=INDEX",
  "84=IND,85=NEXT LINE,85=NEL,86=START OF SELECTED AREA,86=SSA,87=END OF SELECTED AREA,87=ESA",
  "88=CHARACTER TABULATION SET,88=HORIZONTAL TABULATION SET,88=HTS",
  "89=CHARACTER TABULATION WITH JUSTIFICATION,89=HORIZONTAL TABULATION WITH JUSTIFICATION,89=HTJ",
  "8a=LINE TABULATION SET,8a=VERTICAL TABULATION SET,8a=VTS,8b=PARTIAL LINE FORWARD",
  "8b=PARTIAL LINE DOWN,8b=PLD,8c=PARTIAL LINE BACKWARD,8c=PARTIAL LINE UP,8c=PLU",
  "8d=REVERSE LINE FEED,8d=REVERSE INDEX,8d=RI,8e=SINGLE SHIFT TWO,8e=SINGLE-SHIFT-2,8e=SS2",
  "8f=SINGLE SHIFT THREE,8f=SINGLE-SHIFT-3,8f=SS3,90=DEVICE CONTROL STRING,90=DCS",
  "91=PRIVATE USE ONE,91=PRIVATE USE-1,91=PU1,92=PRIVATE USE TWO,92=PRIVATE USE-2,92=PU2",
  "93=SET TRANSMIT STATE,93=STS,94=CANCEL CHARACTER,94=CCH,95=MESSAGE WAITING,95=MW",
  "96=START OF GUARDED AREA,96=START OF PROTECTED AREA,96=SPA,97=END OF GUARDED AREA",
  "97=END OF PROTECTED AREA,97=EPA,98=START OF STRING,98=SOS",
  "99=SINGLE GRAPHIC CHARACTER INTRODUCER,99=SGC,9a=SINGLE CHARACTER INTRODUCER,9a=SCI",
  "9b=CONTROL SEQUENCE INTRODUCER,9b=CSI,9c=STRING TERMINATOR,9c=ST,9d=OPERATING SYSTEM COMMAND",
  "9d=OSC,9e=PRIVACY MESSAGE,9e=PM,9f=APPLICATION PROGRAM COMMAND,9f=APC,a0=NBSP,ad=SHY",
  "1a2=LATIN CAPITAL LETTER GHA,1a3=LATIN SMALL LETTER GHA,34f=CGJ,61c=ALM",
  "709=SYRIAC SUBLINEAR COLON SKEWED LEFT,cde=KANNADA LETTER LLLA,e9d=LAO LETTER FO FON",
  "e9f=LAO LETTER FO FAY,ea3=LAO LETTER RO,ea5=LAO LETTER LO",
  "fd0=TIBETAN MARK BKA- SHOG GI MGO RGYAN,11ec=HANGUL JONGSEONG YESIEUNG-KIYEOK",
  "11ed=HANGUL JONGSEONG YESIEUNG-SSANGKIYEOK,11ee=HANGUL JONGSEONG SSANGYESIEUNG",
  "11ef=HANGUL JONGSEONG YESIEUNG-KHIEUKH,180b=FVS1,180c=FVS2,180d=FVS3,180e=MVS,180f=FVS4",
  "200b=ZWSP,200c=ZWNJ,200d=ZWJ,200e=LRM,200f=RLM,202a=LRE,202b=RLE,202c=PDF,202d=LRO,202e=RLO",
  "202f=NNBSP,205f=MMSP,2060=WJ,2066=LRI,2067=RLI,2068=FSI,2069=PDI",
  "2118=WEIERSTRASS ELLIPTIC FUNCTION,2448=MICR ON US SYMBOL,2449=MICR DASH SYMBOL",
  "2b7a=LEFTWARDS TRIANGLE-HEADED ARROW WITH DOUBLE VERTICAL STROKE",
  "2b7c=RIGHTWARDS TRIANGLE-HEADED ARROW WITH DOUBLE VERTICAL STROKE",
  "a015=YI SYLLABLE ITERATION MARK,aa6e=MYANMAR LETTER KHAMTI LLA",
  "fe18=PRESENTATION FORM FOR VERTICAL RIGHT WHITE LENTICULAR BRACKET,feff=BYTE ORDER MARK",
  "feff=BOM,feff=ZWNBSP,122d4=CUNEIFORM SIGN NU11 TENU",
  "122d5=CUNEIFORM SIGN NU11 OVER NU11 BUR OVER BUR,16e56=MEDEFAIDRIN CAPITAL LETTER H",
  "16e57=MEDEFAIDRIN CAPITAL LETTER NG,16e76=MEDEFAIDRIN SMALL LETTER H",
  "16e77=MEDEFAIDRIN SMALL LETTER NG,1b001=HENTAIGANA LETTER E-1",
  "1d0c5=BYZANTINE MUSICAL SYMBOL FTHORA SKLIRON CHROMA VASIS"]

end Dialogue.Text
