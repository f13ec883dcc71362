import SchemaReview.Text.CharacterName.Basic

/-!
# Scripts from Devanagari to Ethiopic

The scripts of India and Sri Lanka; then Thai, Lao, Tibetan, Myanmar, Georgian, Hangul letters and
Ethiopic.
-/
namespace SchemaReview.Text

/-- The names of the code points from U+0900 to U+0DFF. -/
def southAsianNames : List NameRun :=
  [
   ⟨0x900, "DEVANAGARI SIGN ", "INVERTED CANDRABINDU,CANDRABINDU,ANUSVARA,VISARGA"⟩,
   ⟨0x904, "DEVANAGARI LETTER ",
    "SHORT A,A,AA,I,II,U,UU,VOCALIC R,VOCALIC L,CANDRA E,SHORT E,E,AI,CANDRA O,SHORT O,O,AU,KA,
     KHA,GA,GHA,NGA,CA,CHA,JA,JHA,NYA,TTA,TTHA,DDA,DDHA,NNA,TA,THA,DA,DHA,NA,NNNA,PA,PHA,BA,
     BHA,MA,YA,RA,RRA,LA,LLA,LLLA,VA,SHA,SSA,SA,HA"⟩,
   ⟨0x93A, "DEVANAGARI ", "VOWEL SIGN OE,VOWEL SIGN OOE,SIGN NUKTA,SIGN AVAGRAHA"⟩,
   ⟨0x93E, "DEVANAGARI VOWEL SIGN ",
    "AA,I,II,U,UU,VOCALIC R,VOCALIC RR,CANDRA E,SHORT E,E,AI,CANDRA O,SHORT O,O,AU"⟩,
   ⟨0x94D, "DEVANAGARI ",
    "SIGN VIRAMA,VOWEL SIGN PRISHTHAMATRA E,VOWEL SIGN AW,OM,STRESS SIGN UDATTA,
     STRESS SIGN ANUDATTA,GRAVE ACCENT,ACUTE ACCENT,VOWEL SIGN CANDRA LONG E,VOWEL SIGN UE,
     VOWEL SIGN UUE,LETTER QA,LETTER KHHA,LETTER GHHA,LETTER ZA,LETTER DDDHA,LETTER RHA,
     LETTER FA,LETTER YYA,LETTER VOCALIC RR,LETTER VOCALIC LL,VOWEL SIGN VOCALIC L,
     VOWEL SIGN VOCALIC LL,DANDA,DOUBLE DANDA,DIGIT ZERO,DIGIT ONE,DIGIT TWO,DIGIT THREE,
     DIGIT FOUR,DIGIT FIVE,DIGIT SIX,DIGIT SEVEN,DIGIT EIGHT,DIGIT NINE,ABBREVIATION SIGN,
     SIGN HIGH SPACING DOT"⟩,
   ⟨0x972, "DEVANAGARI LETTER ",
    "CANDRA A,OE,OOE,AW,UE,UUE,MARWARI DDA,ZHA,HEAVY YA,GGA,JJA,GLOTTAL STOP,DDDA,BBA"⟩,
   ⟨0x980, "BENGALI ", "ANJI,SIGN CANDRABINDU,SIGN ANUSVARA,SIGN VISARGA"⟩,
   ⟨0x985, "BENGALI LETTER ", "A,AA,I,II,U,UU,VOCALIC R,VOCALIC L"⟩,
   ⟨0x98F, "BENGALI LETTER ", "E,AI"⟩,
   ⟨0x993, "BENGALI LETTER ",
    "O,AU,KA,KHA,GA,GHA,NGA,CA,CHA,JA,JHA,NYA,TTA,TTHA,DDA,DDHA,NNA,TA,THA,DA,DHA,NA"⟩,
   ⟨0x9AA, "BENGALI LETTER ", "PA,PHA,BA,BHA,MA,YA,RA"⟩,
   ⟨0x9B2, "BENGALI LETTER ", "LA"⟩,
   ⟨0x9B6, "BENGALI LETTER ", "SHA,SSA,SA,HA"⟩,
   ⟨0x9BC, "BENGALI SIGN ", "NUKTA,AVAGRAHA"⟩,
   ⟨0x9BE, "BENGALI VOWEL SIGN ", "AA,I,II,U,UU,VOCALIC R,VOCALIC RR"⟩,
   ⟨0x9C7, "BENGALI VOWEL SIGN ", "E,AI"⟩,
   ⟨0x9CB, "BENGALI ", "VOWEL SIGN O,VOWEL SIGN AU,SIGN VIRAMA,LETTER KHANDA TA"⟩,
   ⟨0x9D7, "BENGALI AU LENGTH ", "MARK"⟩,
   ⟨0x9DC, "BENGALI LETTER ", "RRA,RHA"⟩,
   ⟨0x9DF, "BENGALI ",
    "LETTER YYA,LETTER VOCALIC RR,LETTER VOCALIC LL,VOWEL SIGN VOCALIC L,VOWEL SIGN VOCALIC LL"⟩,
   ⟨0x9E6, "BENGALI DIGIT ", "ZERO,ONE,TWO,THREE,FOUR,FIVE,SIX,SEVEN,EIGHT,NINE"⟩,
   ⟨0x9F0, "BENGALI ",
    "LETTER RA WITH MIDDLE DIAGONAL,LETTER RA WITH LOWER DIAGONAL,RUPEE MARK,RUPEE SIGN,
     CURRENCY NUMERATOR ONE,CURRENCY NUMERATOR TWO,CURRENCY NUMERATOR THREE,
     CURRENCY NUMERATOR FOUR,CURRENCY NUMERATOR ONE LESS THAN THE DENOMINATOR,
     CURRENCY DENOMINATOR SIXTEEN,ISSHAR,GANDA MARK,LETTER VEDIC ANUSVARA,ABBREVIATION SIGN,
     SANDHI MARK"⟩,
   ⟨0xA01, "GURMUKHI SIGN ", "ADAK BINDI,BINDI,VISARGA"⟩,
   ⟨0xA05, "GURMUKHI LETTER ", "A,AA,I,II,U,UU"⟩,
   ⟨0xA0F, "GURMUKHI LETTER ", "EE,AI"⟩,
   ⟨0xA13, "GURMUKHI LETTER ",
    "OO,AU,KA,KHA,GA,GHA,NGA,CA,CHA,JA,JHA,NYA,TTA,TTHA,DDA,DDHA,NNA,TA,THA,DA,DHA,NA"⟩,
   ⟨0xA2A, "GURMUKHI LETTER ", "PA,PHA,BA,BHA,MA,YA,RA"⟩,
   ⟨0xA32, "GURMUKHI LETTER ", "LA,LLA"⟩,
   ⟨0xA35, "GURMUKHI LETTER ", "VA,SHA"⟩,
   ⟨0xA38, "GURMUKHI LETTER ", "SA,HA"⟩,
   ⟨0xA3C, "GURMUKHI SIGN ", "NUKTA"⟩,
   ⟨0xA3E, "GURMUKHI VOWEL SIGN ", "AA,I,II,U,UU"⟩,
   ⟨0xA47, "GURMUKHI VOWEL SIGN ", "EE,AI"⟩,
   ⟨0xA4B, "GURMUKHI ", "VOWEL SIGN OO,VOWEL SIGN AU,SIGN VIRAMA"⟩,
   ⟨0xA51, "GURMUKHI SIGN ", "UDAAT"⟩,
   ⟨0xA59, "GURMUKHI LETTER ", "KHHA,GHHA,ZA,RRA"⟩,
   ⟨0xA5E, "GURMUKHI LETTER ", "FA"⟩,
   ⟨0xA66, "GURMUKHI DIGIT ", "ZERO,ONE,TWO,THREE,FOUR,FIVE,SIX,SEVEN,EIGHT,NINE"⟩,
   ⟨0xA70, "GURMUKHI ", "TIPPI,ADDAK,IRI,URA,EK ONKAR,SIGN YAKASH,ABBREVIATION SIGN"⟩,
   ⟨0xA81, "GUJARATI SIGN ", "CANDRABINDU,ANUSVARA,VISARGA"⟩,
   ⟨0xA85, "GUJARATI LETTER ", "A,AA,I,II,U,UU,VOCALIC R,VOCALIC L"⟩,
   ⟨0xA8D, "GUJARATI VOWEL CANDRA ", "E"⟩,
   ⟨0xA8F, "GUJARATI ", "LETTER E,LETTER AI,VOWEL CANDRA O"⟩,
   ⟨0xA93, "GUJARATI LETTER ",
    "O,AU,KA,KHA,GA,GHA,NGA,CA,CHA,JA,JHA,NYA,TTA,TTHA,DDA,DDHA,NNA,TA,THA,DA,DHA,NA"⟩,
   ⟨0xAAA, "GUJARATI LETTER ", "PA,PHA,BA,BHA,MA,YA,RA"⟩,
   ⟨0xAB2, "GUJARATI LETTER ", "LA,LLA"⟩,
   ⟨0xAB5, "GUJARATI LETTER ", "VA,SHA,SSA,SA,HA"⟩,
   ⟨0xABC, "GUJARATI SIGN ", "NUKTA,AVAGRAHA"⟩,
   ⟨0xABE, "GUJARATI VOWEL SIGN ", "AA,I,II,U,UU,VOCALIC R,VOCALIC RR,CANDRA E"⟩,
   ⟨0xAC7, "GUJARATI VOWEL SIGN ", "E,AI,CANDRA O"⟩,
   ⟨0xACB, "GUJARATI ", "VOWEL SIGN O,VOWEL SIGN AU,SIGN VIRAMA"⟩,
   ⟨0xAD0, "GUJARATI ", "OM"⟩,
   ⟨0xAE0, "GUJARATI ",
    "LETTER VOCALIC RR,LETTER VOCALIC LL,VOWEL SIGN VOCALIC L,VOWEL SIGN VOCALIC LL"⟩,
   ⟨0xAE6, "GUJARATI DIGIT ", "ZERO,ONE,TWO,THREE,FOUR,FIVE,SIX,SEVEN,EIGHT,NINE"⟩,
   ⟨0xAF0, "GUJARATI ", "ABBREVIATION SIGN,RUPEE SIGN"⟩,
   ⟨0xAF9, "GUJARATI ",
    "LETTER ZHA,SIGN SUKUN,SIGN SHADDA,SIGN MADDAH,SIGN THREE-DOT NUKTA ABOVE,
     SIGN CIRCLE NUKTA ABOVE,SIGN TWO-CIRCLE NUKTA ABOVE"⟩,
   ⟨0xB01, "ORIYA SIGN ", "CANDRABINDU,ANUSVARA,VISARGA"⟩,
   ⟨0xB05, "ORIYA LETTER ", "A,AA,I,II,U,UU,VOCALIC R,VOCALIC L"⟩,
   ⟨0xB0F, "ORIYA LETTER ", "E,AI"⟩,
   ⟨0xB13, "ORIYA LETTER ",
    "O,AU,KA,KHA,GA,GHA,NGA,CA,CHA,JA,JHA,NYA,TTA,TTHA,DDA,DDHA,NNA,TA,THA,DA,DHA,NA"⟩,
   ⟨0xB2A, "ORIYA LETTER ", "PA,PHA,BA,BHA,MA,YA,RA"⟩,
   ⟨0xB32, "ORIYA LETTER ", "LA,LLA"⟩,
   ⟨0xB35, "ORIYA LETTER ", "VA,SHA,SSA,SA,HA"⟩,
   ⟨0xB3C, "ORIYA SIGN ", "NUKTA,AVAGRAHA"⟩,
   ⟨0xB3E, "ORIYA VOWEL SIGN ", "AA,I,II,U,UU,VOCALIC R,VOCALIC RR"⟩,
   ⟨0xB47, "ORIYA VOWEL SIGN ", "E,AI"⟩,
   ⟨0xB4B, "ORIYA ", "VOWEL SIGN O,VOWEL SIGN AU,SIGN VIRAMA"⟩,
   ⟨0xB55, "ORIYA ", "SIGN OVERLINE,AI LENGTH MARK,AU LENGTH MARK"⟩,
   ⟨0xB5C, "ORIYA LETTER ", "RRA,RHA"⟩,
   ⟨0xB5F, "ORIYA ",
    "LETTER YYA,LETTER VOCALIC RR,LETTER VOCALIC LL,VOWEL SIGN VOCALIC L,VOWEL SIGN VOCALIC LL"⟩,
   ⟨0xB66, "ORIYA DIGIT ", "ZERO,ONE,TWO,THREE,FOUR,FIVE,SIX,SEVEN,EIGHT,NINE"⟩,
   ⟨0xB70, "ORIYA ", "ISSHAR,LETTER WA"⟩,
   ⟨0xB72, "ORIYA FRACTION ",
    "ONE QUARTER,ONE HALF,THREE QUARTERS,ONE SIXTEENTH,ONE EIGHTH,THREE SIXTEENTHS"⟩,
   ⟨0xB82, "TAMIL SIGN ", "ANUSVARA,VISARGA"⟩,
   ⟨0xB85, "TAMIL LETTER ", "A,AA,I,II,U,UU"⟩,
   ⟨0xB8E, "TAMIL LETTER ", "E,EE,AI"⟩,
   ⟨0xB92, "TAMIL LETTER ", "O,OO,AU,KA"⟩,
   ⟨0xB99, "TAMIL LETTER ", "NGA,CA"⟩,
   ⟨0xB9C, "TAMIL LETTER ", "JA"⟩,
   ⟨0xB9E, "TAMIL LETTER ", "NYA,TTA"⟩,
   ⟨0xBA3, "TAMIL LETTER ", "NNA,TA"⟩,
   ⟨0xBA8, "TAMIL LETTER ", "NA,NNNA,PA"⟩,
   ⟨0xBAE, "TAMIL LETTER ", "MA,YA,RA,RRA,LA,LLA,LLLA,VA,SHA,SSA,SA,HA"⟩,
   ⟨0xBBE, "TAMIL VOWEL SIGN ", "AA,I,II,U,UU"⟩,
   ⟨0xBC6, "TAMIL VOWEL SIGN ", "E,EE,AI"⟩,
   ⟨0xBCA, "TAMIL ", "VOWEL SIGN O,VOWEL SIGN OO,VOWEL SIGN AU,SIGN VIRAMA"⟩,
   ⟨0xBD0, "TAMIL ", "OM"⟩,
   ⟨0xBD7, "TAMIL AU LENGTH ", "MARK"⟩,
   ⟨0xBE6, "TAMIL DIGIT ", "ZERO,ONE,TWO,THREE,FOUR,FIVE,SIX,SEVEN,EIGHT,NINE"⟩,
   ⟨0xBF0, "TAMIL ",
    "NUMBER TEN,NUMBER ONE HUNDRED,NUMBER ONE THOUSAND,DAY SIGN,MONTH SIGN,YEAR SIGN,
     DEBIT SIGN,CREDIT SIGN,AS ABOVE SIGN,RUPEE SIGN,NUMBER SIGN"⟩,
   ⟨0xC00, "TELUGU SIGN ",
    "COMBINING CANDRABINDU ABOVE,CANDRABINDU,ANUSVARA,VISARGA,COMBINING ANUSVARA ABOVE"⟩,
   ⟨0xC05, "TELUGU LETTER ", "A,AA,I,II,U,UU,VOCALIC R,VOCALIC L"⟩,
   ⟨0xC0E, "TELUGU LETTER ", "E,EE,AI"⟩,
   ⟨0xC12, "TELUGU LETTER ",
    "O,OO,AU,KA,KHA,GA,GHA,NGA,CA,CHA,JA,JHA,NYA,TTA,TTHA,DDA,DDHA,NNA,TA,THA,DA,DHA,NA"⟩,
   ⟨0xC2A, "TELUGU LETTER ", "PA,PHA,BA,BHA,MA,YA,RA,RRA,LA,LLA,LLLA,VA,SHA,SSA,SA,HA"⟩,
   ⟨0xC3C, "TELUGU SIGN ", "NUKTA,AVAGRAHA"⟩,
   ⟨0xC3E, "TELUGU VOWEL SIGN ", "AA,I,II,U,UU,VOCALIC R,VOCALIC RR"⟩,
   ⟨0xC46, "TELUGU VOWEL SIGN ", "E,EE,AI"⟩,
   ⟨0xC4A, "TELUGU ", "VOWEL SIGN O,VOWEL SIGN OO,VOWEL SIGN AU,SIGN VIRAMA"⟩,
   ⟨0xC55, "TELUGU ", "LENGTH MARK,AI LENGTH MARK"⟩,
   ⟨0xC58, "TELUGU LETTER ", "TSA,DZA,RRRA"⟩,
   ⟨0xC5D, "TELUGU LETTER NAKAARA ", "POLLU"⟩,
   ⟨0xC60, "TELUGU ",
    "LETTER VOCALIC RR,LETTER VOCALIC LL,VOWEL SIGN VOCALIC L,VOWEL SIGN VOCALIC LL"⟩,
   ⟨0xC66, "TELUGU DIGIT ", "ZERO,ONE,TWO,THREE,FOUR,FIVE,SIX,SEVEN,EIGHT,NINE"⟩,
   ⟨0xC77, "TELUGU SIGN ", "SIDDHAM"⟩,
   ⟨0xC78, "TELUGU FRACTION DIGIT ",
    "ZERO FOR ODD POWERS OF FOUR,ONE FOR ODD POWERS OF FOUR,TWO FOR ODD POWERS OF FOUR,
     THREE FOR ODD POWERS OF FOUR,ONE FOR EVEN POWERS OF FOUR,TWO FOR EVEN POWERS OF FOUR,
     THREE FOR EVEN POWERS OF FOUR"⟩,
   ⟨0xC7F, "TELUGU SIGN ", "TUUMU"⟩,
   ⟨0xC80, "KANNADA SIGN ", "SPACING CANDRABINDU,CANDRABINDU,ANUSVARA,VISARGA,SIDDHAM"⟩,
   ⟨0xC85, "KANNADA LETTER ", "A,AA,I,II,U,UU,VOCALIC R,VOCALIC L"⟩,
   ⟨0xC8E, "KANNADA LETTER ", "E,EE,AI"⟩,
   ⟨0xC92, "KANNADA LETTER ",
    "O,OO,AU,KA,KHA,GA,GHA,NGA,CA,CHA,JA,JHA,NYA,TTA,TTHA,DDA,DDHA,NNA,TA,THA,DA,DHA,NA"⟩,
   ⟨0xCAA, "KANNADA LETTER ", "PA,PHA,BA,BHA,MA,YA,RA,RRA,LA,LLA"⟩,
   ⟨0xCB5, "KANNADA LETTER ", "VA,SHA,SSA,SA,HA"⟩,
   ⟨0xCBC, "KANNADA SIGN ", "NUKTA,AVAGRAHA"⟩,
   ⟨0xCBE, "KANNADA VOWEL SIGN ", "AA,I,II,U,UU,VOCALIC R,VOCALIC RR"⟩,
   ⟨0xCC6, "KANNADA VOWEL SIGN ", "E,EE,AI"⟩,
   ⟨0xCCA, "KANNADA ", "VOWEL SIGN O,VOWEL SIGN OO,VOWEL SIGN AU,SIGN VIRAMA"⟩,
   ⟨0xCD5, "KANNADA ", "LENGTH MARK,AI LENGTH MARK"⟩,
   ⟨0xCDD, "KANNADA LETTER ", "NAKAARA POLLU,FA"⟩,
   ⟨0xCE0, "KANNADA ",
    "LETTER VOCALIC RR,LETTER VOCALIC LL,VOWEL SIGN VOCALIC L,VOWEL SIGN VOCALIC LL"⟩,
   ⟨0xCE6, "KANNADA DIGIT ", "ZERO,ONE,TWO,THREE,FOUR,FIVE,SIX,SEVEN,EIGHT,NINE"⟩,
   ⟨0xCF1, "KANNADA SIGN ", "JIHVAMULIYA,UPADHMANIYA"⟩,
   ⟨0xD00, "MALAYALAM SIGN ", "COMBINING ANUSVARA ABOVE,CANDRABINDU,ANUSVARA,VISARGA"⟩,
   ⟨0xD04, "MALAYALAM LETTER ", "VEDIC ANUSVARA,A,AA,I,II,U,UU,VOCALIC R,VOCALIC L"⟩,
   ⟨0xD0E, "MALAYALAM LETTER ", "E,EE,AI"⟩,
   ⟨0xD12, "MALAYALAM LETTER ",
    "O,OO,AU,KA,KHA,GA,GHA,NGA,CA,CHA,JA,JHA,NYA,TTA,TTHA,DDA,DDHA,NNA,TA,THA,DA,DHA,NA,NNNA,
     PA,PHA,BA,BHA,MA,YA,RA,RRA,LA,LLA,LLLA,VA,SHA,SSA,SA,HA,TTTA"⟩,
   ⟨0xD3B, "MALAYALAM SIGN ", "VERTICAL BAR VIRAMA,CIRCULAR VIRAMA,AVAGRAHA"⟩,
   ⟨0xD3E, "MALAYALAM VOWEL SIGN ", "AA,I,II,U,UU,VOCALIC R,VOCALIC RR"⟩,
   ⟨0xD46, "MALAYALAM VOWEL SIGN ", "E,EE,AI"⟩,
   ⟨0xD4A, "MALAYALAM ",
    "VOWEL SIGN O,VOWEL SIGN OO,VOWEL SIGN AU,SIGN VIRAMA,LETTER DOT REPH,SIGN PARA"⟩,
   ⟨0xD54, "MALAYALAM ",
    "LETTER CHILLU M,LETTER CHILLU Y,LETTER CHILLU LLL,AU LENGTH MARK,
     FRACTION ONE ONE-HUNDRED-AND-SIXTIETH,FRACTION ONE FORTIETH,FRACTION THREE EIGHTIETHS,
     FRACTION ONE TWENTIETH,FRACTION ONE TENTH,FRACTION THREE TWENTIETHS,FRACTION ONE FIFTH,
     LETTER ARCHAIC II,LETTER VOCALIC RR,LETTER VOCALIC LL,VOWEL SIGN VOCALIC L,
     VOWEL SIGN VOCALIC LL"⟩,
   ⟨0xD66, "MALAYALAM DIGIT ", "ZERO,ONE,TWO,THREE,FOUR,FIVE,SIX,SEVEN,EIGHT,NINE"⟩,
   ⟨0xD70, "MALAYALAM ",
    "NUMBER TEN,NUMBER ONE HUNDRED,NUMBER ONE THOUSAND,FRACTION ONE QUARTER,FRACTION ONE HALF,
     FRACTION THREE QUARTERS,FRACTION ONE SIXTEENTH,FRACTION ONE EIGHTH,
     FRACTION THREE SIXTEENTHS,DATE MARK"⟩,
   ⟨0xD7A, "MALAYALAM LETTER CHILLU ", "NN,N,RR,L,LL,K"⟩,
   ⟨0xD81, "SINHALA SIGN ", "CANDRABINDU,ANUSVARAYA,VISARGAYA"⟩,
   ⟨0xD85, "SINHALA LETTER ",
    "AYANNA,AAYANNA,AEYANNA,AEEYANNA,IYANNA,IIYANNA,UYANNA,UUYANNA,IRUYANNA,IRUUYANNA,ILUYANNA,
     ILUUYANNA,EYANNA,EEYANNA,AIYANNA,OYANNA,OOYANNA,AUYANNA"⟩,
   ⟨0xD9A, "SINHALA LETTER ",
    "ALPAPRAANA KAYANNA,MAHAAPRAANA KAYANNA,ALPAPRAANA GAYANNA,MAHAAPRAANA GAYANNA,
     KANTAJA NAASIKYAYA,SANYAKA GAYANNA,ALPAPRAANA CAYANNA,MAHAAPRAANA CAYANNA,
     ALPAPRAANA JAYANNA,MAHAAPRAANA JAYANNA,TAALUJA NAASIKYAYA,TAALUJA SANYOOGA NAAKSIKYAYA,
     SANYAKA JAYANNA,ALPAPRAANA TTAYANNA,MAHAAPRAANA TTAYANNA,ALPAPRAANA DDAYANNA,
     MAHAAPRAANA DDAYANNA,MUURDHAJA NAYANNA,SANYAKA DDAYANNA,ALPAPRAANA TAYANNA,
     MAHAAPRAANA TAYANNA,ALPAPRAANA DAYANNA,MAHAAPRAANA DAYANNA,DANTAJA NAYANNA"⟩,
   ⟨0xDB3, "SINHALA LETTER ",
    "SANYAKA DAYANNA,ALPAPRAANA PAYANNA,MAHAAPRAANA PAYANNA,ALPAPRAANA BAYANNA,
     MAHAAPRAANA BAYANNA,MAYANNA,AMBA BAYANNA,YAYANNA,RAYANNA"⟩,
   ⟨0xDBD, "SINHALA LETTER DANTAJA ", "LAYANNA"⟩,
   ⟨0xDC0, "SINHALA LETTER ",
    "VAYANNA,TAALUJA SAYANNA,MUURDHAJA SAYANNA,DANTAJA SAYANNA,HAYANNA,MUURDHAJA LAYANNA,
     FAYANNA"⟩,
   ⟨0xDCA, "SINHALA SIGN AL-", "LAKUNA"⟩,
   ⟨0xDCF, "SINHALA VOWEL SIGN ",
    "AELA-PILLA,KETTI AEDA-PILLA,DIGA AEDA-PILLA,KETTI IS-PILLA,DIGA IS-PILLA,KETTI PAA-PILLA"⟩,
   ⟨0xDD6, "SINHALA VOWEL SIGN DIGA PAA-", "PILLA"⟩,
   ⟨0xDD8, "SINHALA VOWEL SIGN ",
    "GAETTA-PILLA,KOMBUVA,DIGA KOMBUVA,KOMBU DEKA,KOMBUVA HAA AELA-PILLA,
     KOMBUVA HAA DIGA AELA-PILLA,KOMBUVA HAA GAYANUKITTA,GAYANUKITTA"⟩,
   ⟨0xDE6, "SINHALA LITH DIGIT ", "ZERO,ONE,TWO,THREE,FOUR,FIVE,SIX,SEVEN,EIGHT,NINE"⟩,
   ⟨0xDF2, "SINHALA ",
    "VOWEL SIGN DIGA GAETTA-PILLA,VOWEL SIGN DIGA GAYANUKITTA,PUNCTUATION KUNDDALIYA"⟩]

/-- The names of the code points from U+0E00 to U+139F. -/
def asianNames : List NameRun :=
  [
   ⟨0xE01, "THAI CHARACTER ",
    "KO KAI,KHO KHAI,KHO KHUAT,KHO KHWAI,KHO KHON,KHO RAKHANG,NGO NGU,CHO CHAN,CHO CHING,
     CHO CHANG,SO SO,CHO CHOE,YO YING,DO CHADA,TO PATAK,THO THAN,THO NANGMONTHO,THO PHUTHAO,
     NO NEN,DO DEK,TO TAO,THO THUNG,THO THAHAN,THO THONG,NO NU,BO BAIMAI,PO PLA,PHO PHUNG,
     FO FA,PHO PHAN,FO FAN,PHO SAMPHAO,MO MA,YO YAK,RO RUA,RU,LO LING,LU,WO WAEN,SO SALA,
     SO RUSI,SO SUA,HO HIP,LO CHULA,O ANG,HO NOKHUK,PAIYANNOI,SARA A,MAI HAN-AKAT,SARA AA,
     SARA AM,SARA I,SARA II,SARA UE,SARA UEE,SARA U,SARA UU,PHINTHU"⟩,
   ⟨0xE3F, "THAI CURRENCY SYMBOL ", "BAHT"⟩,
   ⟨0xE40, "THAI CHARACTER ",
    "SARA E,SARA AE,SARA O,SARA AI MAIMUAN,SARA AI MAIMALAI,LAKKHANGYAO,MAIYAMOK,MAITAIKHU,
     MAI EK,MAI THO,MAI TRI,MAI CHATTAWA,THANTHAKHAT,NIKHAHIT,YAMAKKAN,FONGMAN"⟩,
   ⟨0xE50, "THAI DIGIT ", "ZERO,ONE,TWO,THREE,FOUR,FIVE,SIX,SEVEN,EIGHT,NINE"⟩,
   ⟨0xE5A, "THAI CHARACTER ", "ANGKHANKHU,KHOMUT"⟩,
   ⟨0xE81, "LAO LETTER ", "KO,KHO SUNG"⟩,
   ⟨0xE84, "LAO LETTER KHO ", "TAM"⟩,
   ⟨0xE86, "LAO LETTER ", "PALI GHA,NGO,CO,PALI CHA,SO TAM"⟩,
   ⟨0xE8C, "LAO LETTER ",
    "PALI JHA,NYO,PALI NYA,PALI TTA,PALI TTHA,PALI DDA,PALI DDHA,PALI NNA,DO,TO,THO SUNG,
     THO TAM,PALI DHA,NO,BO,PO,PHO SUNG,FO TAM,PHO TAM,FO SUNG,PALI BHA,MO,YO,LO LING"⟩,
   ⟨0xEA5, "LAO LETTER LO ", "LOOT"⟩,
   ⟨0xEA7, "LAO LETTER ", "WO,SANSKRIT SHA,SANSKRIT SSA,SO SUNG,HO SUNG,PALI LLA,O,HO TAM"⟩,
   ⟨0xEAF, "LAO ", "ELLIPSIS"⟩,
   ⟨0xEB0, "LAO VOWEL SIGN ", "A,MAI KAN,AA,AM,I,II,Y,YY,U,UU"⟩,
   ⟨0xEBA, "LAO ", "SIGN PALI VIRAMA,VOWEL SIGN MAI KON,SEMIVOWEL SIGN LO,SEMIVOWEL SIGN NYO"⟩,
   ⟨0xEC0, "LAO VOWEL SIGN ", "E,EI,O,AY,AI"⟩,
   ⟨0xEC6, "LAO KO ", "LA"⟩,
   ⟨0xEC8, "LAO ",
    "TONE MAI EK,TONE MAI THO,TONE MAI TI,TONE MAI CATAWA,CANCELLATION MARK,NIGGAHITA"⟩,
   ⟨0xED0, "LAO DIGIT ", "ZERO,ONE,TWO,THREE,FOUR,FIVE,SIX,SEVEN,EIGHT,NINE"⟩,
   ⟨0xEDC, "LAO ", "HO NO,HO MO,LETTER KHMU GO,LETTER KHMU NYO"⟩,
   ⟨0xF00, "TIBETAN SYLLABLE ", "OM"⟩,
   ⟨0xF01, "TIBETAN MARK ",
    "GTER YIG MGO TRUNCATED A,GTER YIG MGO -UM RNAM BCAD MA,GTER YIG MGO -UM GTER TSHEG MA,
     INITIAL YIG MGO MDUN MA,CLOSING YIG MGO SGAB MA,CARET YIG MGO PHUR SHAD MA,
     YIG MGO TSHEG SHAD MA,SBRUL SHAD,BSKUR YIG MGO,BKA- SHOG YIG MGO,INTERSYLLABIC TSHEG,
     DELIMITER TSHEG BSTAR,SHAD,NYIS SHAD,TSHEG SHAD,NYIS TSHEG SHAD,RIN CHEN SPUNGS SHAD,
     RGYA GRAM SHAD,CARET -DZUD RTAGS ME LONG CAN,GTER TSHEG"⟩,
   ⟨0xF15, "TIBETAN LOGOTYPE SIGN ", "CHAD RTAGS,LHAG RTAGS"⟩,
   ⟨0xF17, "TIBETAN ASTROLOGICAL SIGN ", "SGRA GCAN -CHAR RTAGS,-KHYUD PA,SDONG TSHUGS"⟩,
   ⟨0xF1A, "TIBETAN SIGN RDEL ", "DKAR GCIG,DKAR GNYIS,DKAR GSUM,NAG GCIG,NAG GNYIS,DKAR RDEL NAG"⟩,
   ⟨0xF20, "TIBETAN DIGIT ", "ZERO,ONE,TWO,THREE,FOUR,FIVE,SIX,SEVEN,EIGHT,NINE"⟩,
   ⟨0xF2A, "TIBETAN DIGIT HALF ", "ONE,TWO,THREE,FOUR,FIVE,SIX,SEVEN,EIGHT,NINE,ZERO"⟩,
   ⟨0xF34, "TIBETAN MARK ",
    "BSDUS RTAGS,NGAS BZUNG NYI ZLA,CARET -DZUD RTAGS BZHI MIG CAN,NGAS BZUNG SGOR RTAGS,
     CHE MGO,TSA -PHRU,GUG RTAGS GYON,GUG RTAGS GYAS,ANG KHANG GYON,ANG KHANG GYAS"⟩,
   ⟨0xF3E, "TIBETAN SIGN ", "YAR TSHES,MAR TSHES"⟩,
   ⟨0xF40, "TIBETAN LETTER ", "KA,KHA,GA,GHA,NGA,CA,CHA,JA"⟩,
   ⟨0xF49, "TIBETAN LETTER ",
    "NYA,TTA,TTHA,DDA,DDHA,NNA,TA,THA,DA,DHA,NA,PA,PHA,BA,BHA,MA,TSA,TSHA,DZA,DZHA,WA,ZHA,ZA,
     -A,YA,RA,LA,SHA,SSA,SA,HA,A,KSSA,FIXED-FORM RA,KKA,RRA"⟩,
   ⟨0xF71, "TIBETAN VOWEL SIGN ",
    "AA,I,II,U,UU,VOCALIC R,VOCALIC RR,VOCALIC L,VOCALIC LL,E,EE,O,OO"⟩,
   ⟨0xF7E, "TIBETAN ",
    "SIGN RJES SU NGA RO,SIGN RNAM BCAD,VOWEL SIGN REVERSED I,VOWEL SIGN REVERSED II,
     SIGN NYI ZLA NAA DA,SIGN SNA LDAN,MARK HALANTA,MARK PALUTA,SIGN LCI RTAGS,SIGN YANG RTAGS,
     SIGN LCE TSA CAN,SIGN MCHU CAN,SIGN GRU CAN RGYINGS,SIGN GRU MED RGYINGS,
     SIGN INVERTED MCHU CAN,SUBJOINED SIGN LCE TSA CAN,SUBJOINED SIGN MCHU CAN,
     SUBJOINED SIGN INVERTED MCHU CAN"⟩,
   ⟨0xF90, "TIBETAN SUBJOINED LETTER ", "KA,KHA,GA,GHA,NGA,CA,CHA,JA"⟩,
   ⟨0xF99, "TIBETAN SUBJOINED LETTER ",
    "NYA,TTA,TTHA,DDA,DDHA,NNA,TA,THA,DA,DHA,NA,PA,PHA,BA,BHA,MA,TSA,TSHA,DZA,DZHA,WA,ZHA,ZA,
     -A,YA,RA,LA,SHA,SSA,SA,HA,A,KSSA,FIXED-FORM WA,FIXED-FORM YA,FIXED-FORM RA"⟩,
   ⟨0xFBE, "TIBETAN KU RU ", "KHA,KHA BZHI MIG CAN"⟩,
   ⟨0xFC0, "TIBETAN CANTILLATION SIGN ", "HEAVY BEAT,LIGHT BEAT,CANG TE-U,SBUB -CHAL"⟩,
   ⟨0xFC4, "TIBETAN SYMBOL ",
    "DRIL BU,RDO RJE,PADMA GDAN,RDO RJE RGYA GRAM,PHUR PA,NOR BU,NOR BU NYIS -KHYIL,
     NOR BU GSUM -KHYIL,NOR BU BZHI -KHYIL"⟩,
   ⟨0xFCE, "TIBETAN ",
    "SIGN RDEL NAG RDEL DKAR,SIGN RDEL NAG GSUM,MARK BSKA- SHOG GI MGO RGYAN,
     MARK MNYAM YIG GI MGO RGYAN,MARK NYIS TSHEG,MARK INITIAL BRDA RNYING YIG MGO MDUN MA,
     MARK CLOSING BRDA RNYING YIG MGO SGAB MA"⟩,
   ⟨0xFD5, "",
    "RIGHT-FACING SVASTI SIGN,LEFT-FACING SVASTI SIGN,RIGHT-FACING SVASTI SIGN WITH DOTS,
     LEFT-FACING SVASTI SIGN WITH DOTS,TIBETAN MARK LEADING MCHAN RTAGS,
     TIBETAN MARK TRAILING MCHAN RTAGS"⟩,
   ⟨0x1000, "MYANMAR LETTER ",
    "KA,KHA,GA,GHA,NGA,CA,CHA,JA,JHA,NYA,NNYA,TTA,TTHA,DDA,DDHA,NNA,TA,THA,DA,DHA,NA,PA,PHA,BA,
     BHA,MA,YA,RA,LA,WA,SA,HA,LLA,A,SHAN A,I,II,U,UU,E,MON E,O,AU"⟩,
   ⟨0x102B, "MYANMAR VOWEL SIGN ", "TALL AA,AA,I,II,U,UU,E,AI,MON II,MON O,E ABOVE"⟩,
   ⟨0x1036, "MYANMAR SIGN ", "ANUSVARA,DOT BELOW,VISARGA,VIRAMA,ASAT"⟩,
   ⟨0x103B, "MYANMAR CONSONANT SIGN MEDIAL ", "YA,RA,WA,HA"⟩,
   ⟨0x103F, "MYANMAR ",
    "LETTER GREAT SA,DIGIT ZERO,DIGIT ONE,DIGIT TWO,DIGIT THREE,DIGIT FOUR,DIGIT FIVE,
     DIGIT SIX,DIGIT SEVEN,DIGIT EIGHT,DIGIT NINE,SIGN LITTLE SECTION,SIGN SECTION,
     SYMBOL LOCATIVE,SYMBOL COMPLETED,SYMBOL AFOREMENTIONED,SYMBOL GENITIVE,LETTER SHA,
     LETTER SSA,LETTER VOCALIC R,LETTER VOCALIC RR,LETTER VOCALIC L,LETTER VOCALIC LL,
     VOWEL SIGN VOCALIC R,VOWEL SIGN VOCALIC RR,VOWEL SIGN VOCALIC L,VOWEL SIGN VOCALIC LL,
     LETTER MON NGA,LETTER MON JHA,LETTER MON BBA,LETTER MON BBE,CONSONANT SIGN MON MEDIAL NA,
     CONSONANT SIGN MON MEDIAL MA,CONSONANT SIGN MON MEDIAL LA,LETTER SGAW KAREN SHA,
     VOWEL SIGN SGAW KAREN EU,TONE MARK SGAW KAREN HATHI,TONE MARK SGAW KAREN KE PHO,
     LETTER WESTERN PWO KAREN THA,LETTER WESTERN PWO KAREN PWA,VOWEL SIGN WESTERN PWO KAREN EU,
     VOWEL SIGN WESTERN PWO KAREN UE"⟩,
   ⟨0x1069, "MYANMAR SIGN WESTERN PWO KAREN TONE-", "1,2,3,4,5"⟩,
   ⟨0x106E, "MYANMAR LETTER EASTERN PWO KAREN ", "NNA,YWA,GHWA"⟩,
   ⟨0x1071, "MYANMAR VOWEL SIGN ", "GEBA KAREN I,KAYAH OE,KAYAH U,KAYAH EE"⟩,
   ⟨0x1075, "MYANMAR LETTER SHAN ", "KA,KHA,GA,CA,ZA,NYA,DA,NA,PHA,FA,BA,THA,HA"⟩,
   ⟨0x1082, "MYANMAR ",
    "CONSONANT SIGN SHAN MEDIAL WA,VOWEL SIGN SHAN AA,VOWEL SIGN SHAN E,
     VOWEL SIGN SHAN E ABOVE,VOWEL SIGN SHAN FINAL Y,SIGN SHAN TONE-2,SIGN SHAN TONE-3,
     SIGN SHAN TONE-5,SIGN SHAN TONE-6,SIGN SHAN COUNCIL TONE-2,SIGN SHAN COUNCIL TONE-3,
     SIGN SHAN COUNCIL EMPHATIC TONE,LETTER RUMAI PALAUNG FA,SIGN RUMAI PALAUNG TONE-5"⟩,
   ⟨0x1090, "MYANMAR SHAN DIGIT ", "ZERO,ONE,TWO,THREE,FOUR,FIVE,SIX,SEVEN,EIGHT,NINE"⟩,
   ⟨0x109A, "MYANMAR ",
    "SIGN KHAMTI TONE-1,SIGN KHAMTI TONE-3,VOWEL SIGN AITON A,VOWEL SIGN AITON AI,
     SYMBOL SHAN ONE,SYMBOL SHAN EXCLAMATION"⟩,
   ⟨0x10A0, "GEORGIAN CAPITAL LETTER ",
    "AN,BAN,GAN,DON,EN,VIN,ZEN,TAN,IN,KAN,LAS,MAN,NAR,ON,PAR,ZHAR,RAE,SAN,TAR,UN,PHAR,KHAR,
     GHAN,QAR,SHIN,CHIN,CAN,JIL,CIL,CHAR,XAN,JHAN,HAE,HE,HIE,WE,HAR,HOE"⟩,
   ⟨0x10C7, "GEORGIAN CAPITAL LETTER ", "YN"⟩,
   ⟨0x10CD, "GEORGIAN CAPITAL LETTER ", "AEN"⟩,
   ⟨0x10D0, "GEORGIAN LETTER ",
    "AN,BAN,GAN,DON,EN,VIN,ZEN,TAN,IN,KAN,LAS,MAN,NAR,ON,PAR,ZHAR,RAE,SAN,TAR,UN,PHAR,KHAR,
     GHAN,QAR,SHIN,CHIN,CAN,JIL,CIL,CHAR,XAN,JHAN,HAE,HE,HIE,WE,HAR,HOE,FI,YN,ELIFI,TURNED GAN,
     AIN"⟩,
   ⟨0x10FB, "", "GEORGIAN PARAGRAPH SEPARATOR,MODIFIER LETTER GEORGIAN NAR"⟩,
   ⟨0x10FD, "GEORGIAN LETTER ", "AEN,HARD SIGN,LABIAL SIGN"⟩,
   ⟨0x1100, "HANGUL CHOSEONG ",
    "KIYEOK,SSANGKIYEOK,NIEUN,TIKEUT,SSANGTIKEUT,RIEUL,MIEUM,PIEUP,SSANGPIEUP,SIOS,SSANGSIOS,
     IEUNG,CIEUC,SSANGCIEUC,CHIEUCH,KHIEUKH,THIEUTH,PHIEUPH,HIEUH,NIEUN-KIYEOK,SSANGNIEUN,
     NIEUN-TIKEUT,NIEUN-PIEUP,TIKEUT-KIYEOK,RIEUL-NIEUN,SSANGRIEUL,RIEUL-HIEUH,KAPYEOUNRIEUL,
     MIEUM-PIEUP,KAPYEOUNMIEUM,PIEUP-KIYEOK,PIEUP-NIEUN,PIEUP-TIKEUT,PIEUP-SIOS,
     PIEUP-SIOS-KIYEOK,PIEUP-SIOS-TIKEUT,PIEUP-SIOS-PIEUP,PIEUP-SSANGSIOS,PIEUP-SIOS-CIEUC,
     PIEUP-CIEUC,PIEUP-CHIEUCH,PIEUP-THIEUTH,PIEUP-PHIEUPH,KAPYEOUNPIEUP,KAPYEOUNSSANGPIEUP,
     SIOS-KIYEOK,SIOS-NIEUN,SIOS-TIKEUT,SIOS-RIEUL,SIOS-MIEUM,SIOS-PIEUP,SIOS-PIEUP-KIYEOK,
     SIOS-SSANGSIOS,SIOS-IEUNG,SIOS-CIEUC,SIOS-CHIEUCH,SIOS-KHIEUKH,SIOS-THIEUTH,SIOS-PHIEUPH,
     SIOS-HIEUH,CHITUEUMSIOS,CHITUEUMSSANGSIOS,CEONGCHIEUMSIOS,CEONGCHIEUMSSANGSIOS,PANSIOS,
     IEUNG-KIYEOK,IEUNG-TIKEUT,IEUNG-MIEUM,IEUNG-PIEUP,IEUNG-SIOS,IEUNG-PANSIOS,SSANGIEUNG,
     IEUNG-CIEUC,IEUNG-CHIEUCH,IEUNG-THIEUTH,IEUNG-PHIEUPH,YESIEUNG,CIEUC-IEUNG,CHITUEUMCIEUC,
     CHITUEUMSSANGCIEUC,CEONGCHIEUMCIEUC,CEONGCHIEUMSSANGCIEUC,CHIEUCH-KHIEUKH,CHIEUCH-HIEUH,
     CHITUEUMCHIEUCH,CEONGCHIEUMCHIEUCH,PHIEUPH-PIEUP,KAPYEOUNPHIEUPH,SSANGHIEUH,YEORINHIEUH,
     KIYEOK-TIKEUT,NIEUN-SIOS,NIEUN-CIEUC,NIEUN-HIEUH,TIKEUT-RIEUL,FILLER"⟩,
   ⟨0x1160, "HANGUL JUNGSEONG ",
    "FILLER,A,AE,YA,YAE,EO,E,YEO,YE,O,WA,WAE,OE,YO,U,WEO,WE,WI,YU,EU,YI,I,A-O,A-U,YA-O,YA-YO,
     EO-O,EO-U,EO-EU,YEO-O,YEO-U,O-EO,O-E,O-YE,O-O,O-U,YO-YA,YO-YAE,YO-YEO,YO-O,YO-I,U-A,U-AE,
     U-EO-EU,U-YE,U-U,YU-A,YU-EO,YU-E,YU-YEO,YU-YE,YU-U,YU-I,EU-U,EU-EU,YI-U,I-A,I-YA,I-O,I-U,
     I-EU,I-ARAEA,ARAEA,ARAEA-EO,ARAEA-U,ARAEA-I,SSANGARAEA,A-EU,YA-U,YEO-YA,O-YA,O-YAE"⟩,
   ⟨0x11A8, "HANGUL JONGSEONG ",
    "KIYEOK,SSANGKIYEOK,KIYEOK-SIOS,NIEUN,NIEUN-CIEUC,NIEUN-HIEUH,TIKEUT,RIEUL,RIEUL-KIYEOK,
     RIEUL-MIEUM,RIEUL-PIEUP,RIEUL-SIOS,RIEUL-THIEUTH,RIEUL-PHIEUPH,RIEUL-HIEUH,MIEUM,PIEUP,
     PIEUP-SIOS,SIOS,SSANGSIOS,IEUNG,CIEUC,CHIEUCH,KHIEUKH,THIEUTH,PHIEUPH,HIEUH,KIYEOK-RIEUL,
     KIYEOK-SIOS-KIYEOK,NIEUN-KIYEOK,NIEUN-TIKEUT,NIEUN-SIOS,NIEUN-PANSIOS,NIEUN-THIEUTH,
     TIKEUT-KIYEOK,TIKEUT-RIEUL,RIEUL-KIYEOK-SIOS,RIEUL-NIEUN,RIEUL-TIKEUT,RIEUL-TIKEUT-HIEUH,
     SSANGRIEUL,RIEUL-MIEUM-KIYEOK,RIEUL-MIEUM-SIOS,RIEUL-PIEUP-SIOS,RIEUL-PIEUP-HIEUH,
     RIEUL-KAPYEOUNPIEUP,RIEUL-SSANGSIOS,RIEUL-PANSIOS,RIEUL-KHIEUKH,RIEUL-YEORINHIEUH,
     MIEUM-KIYEOK,MIEUM-RIEUL,MIEUM-PIEUP,MIEUM-SIOS,MIEUM-SSANGSIOS,MIEUM-PANSIOS,
     MIEUM-CHIEUCH,MIEUM-HIEUH,KAPYEOUNMIEUM,PIEUP-RIEUL,PIEUP-PHIEUPH,PIEUP-HIEUH,
     KAPYEOUNPIEUP,SIOS-KIYEOK,SIOS-TIKEUT,SIOS-RIEUL,SIOS-PIEUP,PANSIOS,IEUNG-KIYEOK,
     IEUNG-SSANGKIYEOK,SSANGIEUNG,IEUNG-KHIEUKH,YESIEUNG,YESIEUNG-SIOS,YESIEUNG-PANSIOS,
     PHIEUPH-PIEUP,KAPYEOUNPHIEUPH,HIEUH-NIEUN,HIEUH-RIEUL,HIEUH-MIEUM,HIEUH-PIEUP,YEORINHIEUH,
     KIYEOK-NIEUN,KIYEOK-PIEUP,KIYEOK-CHIEUCH,KIYEOK-KHIEUKH,KIYEOK-HIEUH,SSANGNIEUN"⟩,
   ⟨0x1200, "ETHIOPIC SYLLABLE ",
    "HA,HU,HI,HAA,HEE,HE,HO,HOA,LA,LU,LI,LAA,LEE,LE,LO,LWA,HHA,HHU,HHI,HHAA,HHEE,HHE,HHO,HHWA,
     MA,MU,MI,MAA,MEE,ME,MO,MWA,SZA,SZU,SZI,SZAA,SZEE,SZE,SZO,SZWA,RA,RU,RI,RAA,REE,RE,RO,RWA,
     SA,SU,SI,SAA,SEE,SE,SO,SWA,SHA,SHU,SHI,SHAA,SHEE,SHE,SHO,SHWA,QA,QU,QI,QAA,QEE,QE,QO,QOA,
     QWA"⟩,
   ⟨0x124A, "ETHIOPIC SYLLABLE ", "QWI,QWAA,QWEE,QWE"⟩,
   ⟨0x1250, "ETHIOPIC SYLLABLE ", "QHA,QHU,QHI,QHAA,QHEE,QHE,QHO"⟩,
   ⟨0x1258, "ETHIOPIC SYLLABLE ", "QHWA"⟩,
   ⟨0x125A, "ETHIOPIC SYLLABLE ", "QHWI,QHWAA,QHWEE,QHWE"⟩,
   ⟨0x1260, "ETHIOPIC SYLLABLE ",
    "BA,BU,BI,BAA,BEE,BE,BO,BWA,VA,VU,VI,VAA,VEE,VE,VO,VWA,TA,TU,TI,TAA,TEE,TE,TO,TWA,CA,CU,CI,
     CAA,CEE,CE,CO,CWA,XA,XU,XI,XAA,XEE,XE,XO,XOA,XWA"⟩,
   ⟨0x128A, "ETHIOPIC SYLLABLE ", "XWI,XWAA,XWEE,XWE"⟩,
   ⟨0x1290, "ETHIOPIC SYLLABLE ",
    "NA,NU,NI,NAA,NEE,NE,NO,NWA,NYA,NYU,NYI,NYAA,NYEE,NYE,NYO,NYWA,GLOTTAL A,GLOTTAL U,
     GLOTTAL I,GLOTTAL AA,GLOTTAL EE,GLOTTAL E,GLOTTAL O,GLOTTAL WA,KA,KU,KI,KAA,KEE,KE,KO,KOA,
     KWA"⟩,
   ⟨0x12B2, "ETHIOPIC SYLLABLE ", "KWI,KWAA,KWEE,KWE"⟩,
   ⟨0x12B8, "ETHIOPIC SYLLABLE ", "KXA,KXU,KXI,KXAA,KXEE,KXE,KXO"⟩,
   ⟨0x12C0, "ETHIOPIC SYLLABLE ", "KXWA"⟩,
   ⟨0x12C2, "ETHIOPIC SYLLABLE ", "KXWI,KXWAA,KXWEE,KXWE"⟩,
   ⟨0x12C8, "ETHIOPIC SYLLABLE ", "WA,WU,WI,WAA,WEE,WE,WO,WOA"⟩,
   ⟨0x12D0, "ETHIOPIC SYLLABLE PHARYNGEAL ", "A,U,I,AA,EE,E,O"⟩,
   ⟨0x12D8, "ETHIOPIC SYLLABLE ",
    "ZA,ZU,ZI,ZAA,ZEE,ZE,ZO,ZWA,ZHA,ZHU,ZHI,ZHAA,ZHEE,ZHE,ZHO,ZHWA,YA,YU,YI,YAA,YEE,YE,YO,YOA,
     DA,DU,DI,DAA,DEE,DE,DO,DWA,DDA,DDU,DDI,DDAA,DDEE,DDE,DDO,DDWA,JA,JU,JI,JAA,JEE,JE,JO,JWA,
     GA,GU,GI,GAA,GEE,GE,GO,GOA,GWA"⟩,
   ⟨0x1312, "ETHIOPIC SYLLABLE ", "GWI,GWAA,GWEE,GWE"⟩,
   ⟨0x1318, "ETHIOPIC SYLLABLE ",
    "GGA,GGU,GGI,GGAA,GGEE,GGE,GGO,GGWAA,THA,THU,THI,THAA,THEE,THE,THO,THWA,CHA,CHU,CHI,CHAA,
     CHEE,CHE,CHO,CHWA,PHA,PHU,PHI,PHAA,PHEE,PHE,PHO,PHWA,TSA,TSU,TSI,TSAA,TSEE,TSE,TSO,TSWA,
     TZA,TZU,TZI,TZAA,TZEE,TZE,TZO,TZOA,FA,FU,FI,FAA,FEE,FE,FO,FWA,PA,PU,PI,PAA,PEE,PE,PO,PWA,
     RYA,MYA,FYA"⟩,
   ⟨0x135D, "ETHIOPIC ",
    "COMBINING GEMINATION AND VOWEL LENGTH MARK,COMBINING VOWEL LENGTH MARK,
     COMBINING GEMINATION MARK,SECTION MARK,WORDSPACE,FULL STOP,COMMA,SEMICOLON,COLON,
     PREFACE COLON,QUESTION MARK,PARAGRAPH SEPARATOR"⟩,
   ⟨0x1369, "ETHIOPIC DIGIT ", "ONE,TWO,THREE,FOUR,FIVE,SIX,SEVEN,EIGHT,NINE"⟩,
   ⟨0x1372, "ETHIOPIC NUMBER ",
    "TEN,TWENTY,THIRTY,FORTY,FIFTY,SIXTY,SEVENTY,EIGHTY,NINETY,HUNDRED,TEN THOUSAND"⟩,
   ⟨0x1380, "ETHIOPIC SYLLABLE ",
    "SEBATBEIT MWA,MWI,MWEE,MWE,SEBATBEIT BWA,BWI,BWEE,BWE,SEBATBEIT FWA,FWI,FWEE,FWE,
     SEBATBEIT PWA,PWI,PWEE,PWE"⟩,
   ⟨0x1390, "ETHIOPIC TONAL MARK ",
    "YIZET,DERET,RIKRIK,SHORT RIKRIK,DIFAT,KENAT,CHIRET,HIDET,DERET-HIDET,KURT"⟩]

end SchemaReview.Text
