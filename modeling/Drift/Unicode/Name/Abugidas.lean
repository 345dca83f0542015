import Drift.Unicode.Name.Run

/-!
# Names: letters of southern Asia, Africa and America

* `Unicode.NameRun.abugidas` — the names of the scripts of southern Asia, Africa and America.
-/

namespace Drift.Unicode.NameRun

/-- The names of the scripts of southern Asia, Africa and America. -/
def abugidas : List NameRun := [
  ⟨0x900, "DEVANAGARI SIGN ", ["INVERTED CANDRABINDU,CANDRABINDU,ANUSVARA,VISARGA"]⟩,
  ⟨0x904, "DEVANAGARI LETTER ", [
    "SHORT A,A,AA,I,II,U,UU,VOCALIC R,VOCALIC L,CANDRA E,SHORT E,E,AI,CANDRA O,SHORT O,O,AU",
    "KA,KHA,GA,GHA,NGA,CA,CHA,JA,JHA,NYA,TTA,TTHA,DDA,DDHA,NNA,TA,THA,DA,DHA,NA,NNNA,PA,PHA",
    "BA,BHA,MA,YA,RA,RRA,LA,LLA,LLLA,VA,SHA,SSA,SA,HA"]⟩,
  ⟨0x93A, "DEVANAGARI ", ["VOWEL SIGN OE,VOWEL SIGN OOE,SIGN NUKTA,SIGN AVAGRAHA"]⟩,
  ⟨0x93E, "DEVANAGARI VOWEL SIGN ", [
    "AA,I,II,U,UU,VOCALIC R,VOCALIC RR,CANDRA E,SHORT E,E,AI,CANDRA O,SHORT O,O,AU"]⟩,
  ⟨0x94D, "DEVANAGARI ", [
    "SIGN VIRAMA,VOWEL SIGN PRISHTHAMATRA E,VOWEL SIGN AW,OM,STRESS SIGN UDATTA",
    "STRESS SIGN ANUDATTA,GRAVE ACCENT,ACUTE ACCENT,VOWEL SIGN CANDRA LONG E,VOWEL SIGN UE",
    "VOWEL SIGN UUE"]⟩,
  ⟨0x958, "DEVANAGARI LETTER ", ["QA,KHHA,GHHA,ZA,DDDHA,RHA,FA,YYA,VOCALIC RR,VOCALIC LL"]⟩,
  ⟨0x962, "DEVANAGARI ", [
    "VOWEL SIGN VOCALIC L,VOWEL SIGN VOCALIC LL,DANDA,DOUBLE DANDA,DIGIT ZERO,DIGIT ONE",
    "DIGIT TWO,DIGIT THREE,DIGIT FOUR,DIGIT FIVE,DIGIT SIX,DIGIT SEVEN,DIGIT EIGHT,DIGIT NINE",
    "ABBREVIATION SIGN,SIGN HIGH SPACING DOT"]⟩,
  ⟨0x972, "DEVANAGARI LETTER ", [
    "CANDRA A,OE,OOE,AW,UE,UUE,MARWARI DDA,ZHA,HEAVY YA,GGA,JJA,GLOTTAL STOP,DDDA,BBA"]⟩,
  ⟨0x980, "BENGALI ", ["ANJI,SIGN CANDRABINDU,SIGN ANUSVARA,SIGN VISARGA"]⟩,
  ⟨0x985, "BENGALI LETTER ", ["A,AA,I,II,U,UU,VOCALIC R,VOCALIC L"]⟩,
  ⟨0x98F, "BENGALI LETTER ", ["E,AI"]⟩,
  ⟨0x993, "BENGALI LETTER ", [
    "O,AU,KA,KHA,GA,GHA,NGA,CA,CHA,JA,JHA,NYA,TTA,TTHA,DDA,DDHA,NNA,TA,THA,DA,DHA,NA"]⟩,
  ⟨0x9AA, "BENGALI LETTER ", ["PA,PHA,BA,BHA,MA,YA,RA"]⟩,
  ⟨0x9B2, "BENGALI LETTER ", ["LA"]⟩,
  ⟨0x9B6, "BENGALI LETTER ", ["SHA,SSA,SA,HA"]⟩,
  ⟨0x9BC, "BENGALI SIGN ", ["NUKTA,AVAGRAHA"]⟩,
  ⟨0x9BE, "BENGALI VOWEL SIGN ", ["AA,I,II,U,UU,VOCALIC R,VOCALIC RR"]⟩,
  ⟨0x9C7, "BENGALI VOWEL SIGN ", ["E,AI"]⟩,
  ⟨0x9CB, "BENGALI ", ["VOWEL SIGN O,VOWEL SIGN AU,SIGN VIRAMA,LETTER KHANDA TA"]⟩,
  ⟨0x9D7, "BENGALI AU LENGTH ", ["MARK"]⟩,
  ⟨0x9DC, "BENGALI LETTER ", ["RRA,RHA"]⟩,
  ⟨0x9DF, "BENGALI LETTER ", ["YYA,VOCALIC RR,VOCALIC LL"]⟩,
  ⟨0x9E2, "BENGALI VOWEL SIGN VOCALIC ", ["L,LL"]⟩,
  ⟨0x9E6, "BENGALI DIGIT ", ["ZERO,ONE,TWO,THREE,FOUR,FIVE,SIX,SEVEN,EIGHT,NINE"]⟩,
  ⟨0x9F0, "BENGALI ", [
    "LETTER RA WITH MIDDLE DIAGONAL,LETTER RA WITH LOWER DIAGONAL,RUPEE MARK,RUPEE SIGN"]⟩,
  ⟨0x9F4, "BENGALI CURRENCY NUMERATOR ", ["ONE,TWO,THREE,FOUR,ONE LESS THAN THE DENOMINATOR"]⟩,
  ⟨0x9F9, "BENGALI ", [
    "CURRENCY DENOMINATOR SIXTEEN,ISSHAR,GANDA MARK,LETTER VEDIC ANUSVARA,ABBREVIATION SIGN",
    "SANDHI MARK"]⟩,
  ⟨0xA01, "GURMUKHI SIGN ", ["ADAK BINDI,BINDI,VISARGA"]⟩,
  ⟨0xA05, "GURMUKHI LETTER ", ["A,AA,I,II,U,UU"]⟩,
  ⟨0xA0F, "GURMUKHI LETTER ", ["EE,AI"]⟩,
  ⟨0xA13, "GURMUKHI LETTER ", [
    "OO,AU,KA,KHA,GA,GHA,NGA,CA,CHA,JA,JHA,NYA,TTA,TTHA,DDA,DDHA,NNA,TA,THA,DA,DHA,NA"]⟩,
  ⟨0xA2A, "GURMUKHI LETTER ", ["PA,PHA,BA,BHA,MA,YA,RA"]⟩,
  ⟨0xA32, "GURMUKHI LETTER ", ["LA,LLA"]⟩,
  ⟨0xA35, "GURMUKHI LETTER ", ["VA,SHA"]⟩,
  ⟨0xA38, "GURMUKHI LETTER ", ["SA,HA"]⟩,
  ⟨0xA3C, "GURMUKHI SIGN ", ["NUKTA"]⟩,
  ⟨0xA3E, "GURMUKHI VOWEL SIGN ", ["AA,I,II,U,UU"]⟩,
  ⟨0xA47, "GURMUKHI VOWEL SIGN ", ["EE,AI"]⟩,
  ⟨0xA4B, "GURMUKHI ", ["VOWEL SIGN OO,VOWEL SIGN AU,SIGN VIRAMA"]⟩,
  ⟨0xA51, "GURMUKHI SIGN ", ["UDAAT"]⟩,
  ⟨0xA59, "GURMUKHI LETTER ", ["KHHA,GHHA,ZA,RRA"]⟩,
  ⟨0xA5E, "GURMUKHI LETTER ", ["FA"]⟩,
  ⟨0xA66, "GURMUKHI DIGIT ", ["ZERO,ONE,TWO,THREE,FOUR,FIVE,SIX,SEVEN,EIGHT,NINE"]⟩,
  ⟨0xA70, "GURMUKHI ", ["TIPPI,ADDAK,IRI,URA,EK ONKAR,SIGN YAKASH,ABBREVIATION SIGN"]⟩,
  ⟨0xA81, "GUJARATI SIGN ", ["CANDRABINDU,ANUSVARA,VISARGA"]⟩,
  ⟨0xA85, "GUJARATI LETTER ", ["A,AA,I,II,U,UU,VOCALIC R,VOCALIC L"]⟩,
  ⟨0xA8D, "GUJARATI VOWEL CANDRA ", ["E"]⟩,
  ⟨0xA8F, "GUJARATI ", ["LETTER E,LETTER AI,VOWEL CANDRA O"]⟩,
  ⟨0xA93, "GUJARATI LETTER ", [
    "O,AU,KA,KHA,GA,GHA,NGA,CA,CHA,JA,JHA,NYA,TTA,TTHA,DDA,DDHA,NNA,TA,THA,DA,DHA,NA"]⟩,
  ⟨0xAAA, "GUJARATI LETTER ", ["PA,PHA,BA,BHA,MA,YA,RA"]⟩,
  ⟨0xAB2, "GUJARATI LETTER ", ["LA,LLA"]⟩,
  ⟨0xAB5, "GUJARATI LETTER ", ["VA,SHA,SSA,SA,HA"]⟩,
  ⟨0xABC, "GUJARATI SIGN ", ["NUKTA,AVAGRAHA"]⟩,
  ⟨0xABE, "GUJARATI VOWEL SIGN ", ["AA,I,II,U,UU,VOCALIC R,VOCALIC RR,CANDRA E"]⟩,
  ⟨0xAC7, "GUJARATI VOWEL SIGN ", ["E,AI,CANDRA O"]⟩,
  ⟨0xACB, "GUJARATI ", ["VOWEL SIGN O,VOWEL SIGN AU,SIGN VIRAMA"]⟩,
  ⟨0xAD0, "GUJARATI ", ["OM"]⟩,
  ⟨0xAE0, "GUJARATI LETTER VOCALIC ", ["RR,LL"]⟩,
  ⟨0xAE2, "GUJARATI VOWEL SIGN VOCALIC ", ["L,LL"]⟩,
  ⟨0xAE6, "GUJARATI DIGIT ", ["ZERO,ONE,TWO,THREE,FOUR,FIVE,SIX,SEVEN,EIGHT,NINE"]⟩,
  ⟨0xAF0, "GUJARATI ", ["ABBREVIATION SIGN,RUPEE SIGN"]⟩,
  ⟨0xAF9, "GUJARATI ", [
    "LETTER ZHA,SIGN SUKUN,SIGN SHADDA,SIGN MADDAH,SIGN THREE-DOT NUKTA ABOVE",
    "SIGN CIRCLE NUKTA ABOVE,SIGN TWO-CIRCLE NUKTA ABOVE"]⟩,
  ⟨0xB01, "ORIYA SIGN ", ["CANDRABINDU,ANUSVARA,VISARGA"]⟩,
  ⟨0xB05, "ORIYA LETTER ", ["A,AA,I,II,U,UU,VOCALIC R,VOCALIC L"]⟩,
  ⟨0xB0F, "ORIYA LETTER ", ["E,AI"]⟩,
  ⟨0xB13, "ORIYA LETTER ", [
    "O,AU,KA,KHA,GA,GHA,NGA,CA,CHA,JA,JHA,NYA,TTA,TTHA,DDA,DDHA,NNA,TA,THA,DA,DHA,NA"]⟩,
  ⟨0xB2A, "ORIYA LETTER ", ["PA,PHA,BA,BHA,MA,YA,RA"]⟩,
  ⟨0xB32, "ORIYA LETTER ", ["LA,LLA"]⟩,
  ⟨0xB35, "ORIYA LETTER ", ["VA,SHA,SSA,SA,HA"]⟩,
  ⟨0xB3C, "ORIYA SIGN ", ["NUKTA,AVAGRAHA"]⟩,
  ⟨0xB3E, "ORIYA VOWEL SIGN ", ["AA,I,II,U,UU,VOCALIC R,VOCALIC RR"]⟩,
  ⟨0xB47, "ORIYA VOWEL SIGN ", ["E,AI"]⟩,
  ⟨0xB4B, "ORIYA ", ["VOWEL SIGN O,VOWEL SIGN AU,SIGN VIRAMA"]⟩,
  ⟨0xB55, "ORIYA ", ["SIGN OVERLINE,AI LENGTH MARK,AU LENGTH MARK"]⟩,
  ⟨0xB5C, "ORIYA LETTER ", ["RRA,RHA"]⟩,
  ⟨0xB5F, "ORIYA LETTER ", ["YYA,VOCALIC RR,VOCALIC LL"]⟩,
  ⟨0xB62, "ORIYA VOWEL SIGN VOCALIC ", ["L,LL"]⟩,
  ⟨0xB66, "ORIYA DIGIT ", ["ZERO,ONE,TWO,THREE,FOUR,FIVE,SIX,SEVEN,EIGHT,NINE"]⟩,
  ⟨0xB70, "ORIYA ", ["ISSHAR,LETTER WA"]⟩,
  ⟨0xB72, "ORIYA FRACTION ", [
    "ONE QUARTER,ONE HALF,THREE QUARTERS,ONE SIXTEENTH,ONE EIGHTH,THREE SIXTEENTHS"]⟩,
  ⟨0xB82, "TAMIL SIGN ", ["ANUSVARA,VISARGA"]⟩,
  ⟨0xB85, "TAMIL LETTER ", ["A,AA,I,II,U,UU"]⟩,
  ⟨0xB8E, "TAMIL LETTER ", ["E,EE,AI"]⟩,
  ⟨0xB92, "TAMIL LETTER ", ["O,OO,AU,KA"]⟩,
  ⟨0xB99, "TAMIL LETTER ", ["NGA,CA"]⟩,
  ⟨0xB9C, "TAMIL LETTER ", ["JA"]⟩,
  ⟨0xB9E, "TAMIL LETTER ", ["NYA,TTA"]⟩,
  ⟨0xBA3, "TAMIL LETTER ", ["NNA,TA"]⟩,
  ⟨0xBA8, "TAMIL LETTER ", ["NA,NNNA,PA"]⟩,
  ⟨0xBAE, "TAMIL LETTER ", ["MA,YA,RA,RRA,LA,LLA,LLLA,VA,SHA,SSA,SA,HA"]⟩,
  ⟨0xBBE, "TAMIL VOWEL SIGN ", ["AA,I,II,U,UU"]⟩,
  ⟨0xBC6, "TAMIL VOWEL SIGN ", ["E,EE,AI"]⟩,
  ⟨0xBCA, "TAMIL ", ["VOWEL SIGN O,VOWEL SIGN OO,VOWEL SIGN AU,SIGN VIRAMA"]⟩,
  ⟨0xBD0, "TAMIL ", ["OM"]⟩,
  ⟨0xBD7, "TAMIL AU LENGTH ", ["MARK"]⟩,
  ⟨0xBE6, "TAMIL DIGIT ", ["ZERO,ONE,TWO,THREE,FOUR,FIVE,SIX,SEVEN,EIGHT,NINE"]⟩,
  ⟨0xBF0, "TAMIL ", [
    "NUMBER TEN,NUMBER ONE HUNDRED,NUMBER ONE THOUSAND,DAY SIGN,MONTH SIGN,YEAR SIGN",
    "DEBIT SIGN,CREDIT SIGN,AS ABOVE SIGN,RUPEE SIGN,NUMBER SIGN"]⟩,
  ⟨0xC00, "TELUGU SIGN ", [
    "COMBINING CANDRABINDU ABOVE,CANDRABINDU,ANUSVARA,VISARGA,COMBINING ANUSVARA ABOVE"]⟩,
  ⟨0xC05, "TELUGU LETTER ", ["A,AA,I,II,U,UU,VOCALIC R,VOCALIC L"]⟩,
  ⟨0xC0E, "TELUGU LETTER ", ["E,EE,AI"]⟩,
  ⟨0xC12, "TELUGU LETTER ", [
    "O,OO,AU,KA,KHA,GA,GHA,NGA,CA,CHA,JA,JHA,NYA,TTA,TTHA,DDA,DDHA,NNA,TA,THA,DA,DHA,NA"]⟩,
  ⟨0xC2A, "TELUGU LETTER ", ["PA,PHA,BA,BHA,MA,YA,RA,RRA,LA,LLA,LLLA,VA,SHA,SSA,SA,HA"]⟩,
  ⟨0xC3C, "TELUGU SIGN ", ["NUKTA,AVAGRAHA"]⟩,
  ⟨0xC3E, "TELUGU VOWEL SIGN ", ["AA,I,II,U,UU,VOCALIC R,VOCALIC RR"]⟩,
  ⟨0xC46, "TELUGU VOWEL SIGN ", ["E,EE,AI"]⟩,
  ⟨0xC4A, "TELUGU ", ["VOWEL SIGN O,VOWEL SIGN OO,VOWEL SIGN AU,SIGN VIRAMA"]⟩,
  ⟨0xC55, "TELUGU ", ["LENGTH MARK,AI LENGTH MARK"]⟩,
  ⟨0xC58, "TELUGU LETTER ", ["TSA,DZA,RRRA"]⟩,
  ⟨0xC5D, "TELUGU LETTER NAKAARA ", ["POLLU"]⟩,
  ⟨0xC60, "TELUGU LETTER VOCALIC ", ["RR,LL"]⟩,
  ⟨0xC62, "TELUGU VOWEL SIGN VOCALIC ", ["L,LL"]⟩,
  ⟨0xC66, "TELUGU DIGIT ", ["ZERO,ONE,TWO,THREE,FOUR,FIVE,SIX,SEVEN,EIGHT,NINE"]⟩,
  ⟨0xC77, "TELUGU SIGN ", ["SIDDHAM"]⟩,
  ⟨0xC78, "TELUGU FRACTION DIGIT ", [
    "ZERO FOR ODD POWERS OF FOUR,ONE FOR ODD POWERS OF FOUR,TWO FOR ODD POWERS OF FOUR",
    "THREE FOR ODD POWERS OF FOUR,ONE FOR EVEN POWERS OF FOUR,TWO FOR EVEN POWERS OF FOUR",
    "THREE FOR EVEN POWERS OF FOUR"]⟩,
  ⟨0xC7F, "TELUGU SIGN ", ["TUUMU"]⟩,
  ⟨0xC80, "KANNADA SIGN ", ["SPACING CANDRABINDU,CANDRABINDU,ANUSVARA,VISARGA,SIDDHAM"]⟩,
  ⟨0xC85, "KANNADA LETTER ", ["A,AA,I,II,U,UU,VOCALIC R,VOCALIC L"]⟩,
  ⟨0xC8E, "KANNADA LETTER ", ["E,EE,AI"]⟩,
  ⟨0xC92, "KANNADA LETTER ", [
    "O,OO,AU,KA,KHA,GA,GHA,NGA,CA,CHA,JA,JHA,NYA,TTA,TTHA,DDA,DDHA,NNA,TA,THA,DA,DHA,NA"]⟩,
  ⟨0xCAA, "KANNADA LETTER ", ["PA,PHA,BA,BHA,MA,YA,RA,RRA,LA,LLA"]⟩,
  ⟨0xCB5, "KANNADA LETTER ", ["VA,SHA,SSA,SA,HA"]⟩,
  ⟨0xCBC, "KANNADA SIGN ", ["NUKTA,AVAGRAHA"]⟩,
  ⟨0xCBE, "KANNADA VOWEL SIGN ", ["AA,I,II,U,UU,VOCALIC R,VOCALIC RR"]⟩,
  ⟨0xCC6, "KANNADA VOWEL SIGN ", ["E,EE,AI"]⟩,
  ⟨0xCCA, "KANNADA ", ["VOWEL SIGN O,VOWEL SIGN OO,VOWEL SIGN AU,SIGN VIRAMA"]⟩,
  ⟨0xCD5, "KANNADA ", ["LENGTH MARK,AI LENGTH MARK"]⟩,
  ⟨0xCDD, "KANNADA LETTER ", ["NAKAARA POLLU,FA"]⟩,
  ⟨0xCE0, "KANNADA LETTER VOCALIC ", ["RR,LL"]⟩,
  ⟨0xCE2, "KANNADA VOWEL SIGN VOCALIC ", ["L,LL"]⟩,
  ⟨0xCE6, "KANNADA DIGIT ", ["ZERO,ONE,TWO,THREE,FOUR,FIVE,SIX,SEVEN,EIGHT,NINE"]⟩,
  ⟨0xCF1, "KANNADA SIGN ", ["JIHVAMULIYA,UPADHMANIYA"]⟩,
  ⟨0xD00, "MALAYALAM SIGN ", ["COMBINING ANUSVARA ABOVE,CANDRABINDU,ANUSVARA,VISARGA"]⟩,
  ⟨0xD04, "MALAYALAM LETTER ", ["VEDIC ANUSVARA,A,AA,I,II,U,UU,VOCALIC R,VOCALIC L"]⟩,
  ⟨0xD0E, "MALAYALAM LETTER ", ["E,EE,AI"]⟩,
  ⟨0xD12, "MALAYALAM LETTER ", [
    "O,OO,AU,KA,KHA,GA,GHA,NGA,CA,CHA,JA,JHA,NYA,TTA,TTHA,DDA,DDHA,NNA,TA,THA,DA,DHA,NA,NNNA",
    "PA,PHA,BA,BHA,MA,YA,RA,RRA,LA,LLA,LLLA,VA,SHA,SSA,SA,HA,TTTA"]⟩,
  ⟨0xD3B, "MALAYALAM SIGN ", ["VERTICAL BAR VIRAMA,CIRCULAR VIRAMA,AVAGRAHA"]⟩,
  ⟨0xD3E, "MALAYALAM VOWEL SIGN ", ["AA,I,II,U,UU,VOCALIC R,VOCALIC RR"]⟩,
  ⟨0xD46, "MALAYALAM VOWEL SIGN ", ["E,EE,AI"]⟩,
  ⟨0xD4A, "MALAYALAM ", [
    "VOWEL SIGN O,VOWEL SIGN OO,VOWEL SIGN AU,SIGN VIRAMA,LETTER DOT REPH,SIGN PARA"]⟩,
  ⟨0xD54, "MALAYALAM ", [
    "LETTER CHILLU M,LETTER CHILLU Y,LETTER CHILLU LLL,AU LENGTH MARK",
    "FRACTION ONE ONE-HUNDRED-AND-SIXTIETH,FRACTION ONE FORTIETH,FRACTION THREE EIGHTIETHS",
    "FRACTION ONE TWENTIETH,FRACTION ONE TENTH,FRACTION THREE TWENTIETHS,FRACTION ONE FIFTH",
    "LETTER ARCHAIC II,LETTER VOCALIC RR,LETTER VOCALIC LL,VOWEL SIGN VOCALIC L",
    "VOWEL SIGN VOCALIC LL"]⟩,
  ⟨0xD66, "MALAYALAM DIGIT ", ["ZERO,ONE,TWO,THREE,FOUR,FIVE,SIX,SEVEN,EIGHT,NINE"]⟩,
  ⟨0xD70, "MALAYALAM ", [
    "NUMBER TEN,NUMBER ONE HUNDRED,NUMBER ONE THOUSAND,FRACTION ONE QUARTER,FRACTION ONE HALF",
    "FRACTION THREE QUARTERS,FRACTION ONE SIXTEENTH,FRACTION ONE EIGHTH",
    "FRACTION THREE SIXTEENTHS,DATE MARK"]⟩,
  ⟨0xD7A, "MALAYALAM LETTER CHILLU ", ["NN,N,RR,L,LL,K"]⟩,
  ⟨0xD81, "SINHALA SIGN ", ["CANDRABINDU,ANUSVARAYA,VISARGAYA"]⟩,
  ⟨0xD85, "SINHALA LETTER ", [
    "AYANNA,AAYANNA,AEYANNA,AEEYANNA,IYANNA,IIYANNA,UYANNA,UUYANNA,IRUYANNA,IRUUYANNA",
    "ILUYANNA,ILUUYANNA,EYANNA,EEYANNA,AIYANNA,OYANNA,OOYANNA,AUYANNA"]⟩,
  ⟨0xD9A, "SINHALA LETTER ", [
    "ALPAPRAANA KAYANNA,MAHAAPRAANA KAYANNA,ALPAPRAANA GAYANNA,MAHAAPRAANA GAYANNA",
    "KANTAJA NAASIKYAYA,SANYAKA GAYANNA,ALPAPRAANA CAYANNA,MAHAAPRAANA CAYANNA",
    "ALPAPRAANA JAYANNA,MAHAAPRAANA JAYANNA,TAALUJA NAASIKYAYA,TAALUJA SANYOOGA NAAKSIKYAYA",
    "SANYAKA JAYANNA,ALPAPRAANA TTAYANNA,MAHAAPRAANA TTAYANNA,ALPAPRAANA DDAYANNA",
    "MAHAAPRAANA DDAYANNA,MUURDHAJA NAYANNA,SANYAKA DDAYANNA,ALPAPRAANA TAYANNA",
    "MAHAAPRAANA TAYANNA,ALPAPRAANA DAYANNA,MAHAAPRAANA DAYANNA,DANTAJA NAYANNA"]⟩,
  ⟨0xDB3, "SINHALA LETTER ", [
    "SANYAKA DAYANNA,ALPAPRAANA PAYANNA,MAHAAPRAANA PAYANNA,ALPAPRAANA BAYANNA",
    "MAHAAPRAANA BAYANNA,MAYANNA,AMBA BAYANNA,YAYANNA,RAYANNA"]⟩,
  ⟨0xDBD, "SINHALA LETTER DANTAJA ", ["LAYANNA"]⟩,
  ⟨0xDC0, "SINHALA LETTER ", [
    "VAYANNA,TAALUJA SAYANNA,MUURDHAJA SAYANNA,DANTAJA SAYANNA,HAYANNA,MUURDHAJA LAYANNA",
    "FAYANNA"]⟩,
  ⟨0xDCA, "SINHALA SIGN ", ["AL-LAKUNA"]⟩,
  ⟨0xDCF, "SINHALA VOWEL SIGN ", [
    "AELA-PILLA,KETTI AEDA-PILLA,DIGA AEDA-PILLA,KETTI IS-PILLA,DIGA IS-PILLA,KETTI PAA-PILLA"]⟩,
  ⟨0xDD6, "SINHALA VOWEL SIGN DIGA ", ["PAA-PILLA"]⟩,
  ⟨0xDD8, "SINHALA VOWEL SIGN ", [
    "GAETTA-PILLA,KOMBUVA,DIGA KOMBUVA,KOMBU DEKA,KOMBUVA HAA AELA-PILLA",
    "KOMBUVA HAA DIGA AELA-PILLA,KOMBUVA HAA GAYANUKITTA,GAYANUKITTA"]⟩,
  ⟨0xDE6, "SINHALA LITH DIGIT ", ["ZERO,ONE,TWO,THREE,FOUR,FIVE,SIX,SEVEN,EIGHT,NINE"]⟩,
  ⟨0xDF2, "SINHALA ", [
    "VOWEL SIGN DIGA GAETTA-PILLA,VOWEL SIGN DIGA GAYANUKITTA,PUNCTUATION KUNDDALIYA"]⟩,
  ⟨0xE01, "THAI CHARACTER ", [
    "KO KAI,KHO KHAI,KHO KHUAT,KHO KHWAI,KHO KHON,KHO RAKHANG,NGO NGU,CHO CHAN,CHO CHING",
    "CHO CHANG,SO SO,CHO CHOE,YO YING,DO CHADA,TO PATAK,THO THAN,THO NANGMONTHO,THO PHUTHAO",
    "NO NEN,DO DEK,TO TAO,THO THUNG,THO THAHAN,THO THONG,NO NU,BO BAIMAI,PO PLA,PHO PHUNG",
    "FO FA,PHO PHAN,FO FAN,PHO SAMPHAO,MO MA,YO YAK,RO RUA,RU,LO LING,LU,WO WAEN,SO SALA",
    "SO RUSI,SO SUA,HO HIP,LO CHULA,O ANG,HO NOKHUK,PAIYANNOI,SARA A,MAI HAN-AKAT,SARA AA",
    "SARA AM,SARA I,SARA II,SARA UE,SARA UEE,SARA U,SARA UU,PHINTHU"]⟩,
  ⟨0xE3F, "THAI CURRENCY SYMBOL ", ["BAHT"]⟩,
  ⟨0xE40, "THAI CHARACTER ", [
    "SARA E,SARA AE,SARA O,SARA AI MAIMUAN,SARA AI MAIMALAI,LAKKHANGYAO,MAIYAMOK,MAITAIKHU",
    "MAI EK,MAI THO,MAI TRI,MAI CHATTAWA,THANTHAKHAT,NIKHAHIT,YAMAKKAN,FONGMAN"]⟩,
  ⟨0xE50, "THAI DIGIT ", ["ZERO,ONE,TWO,THREE,FOUR,FIVE,SIX,SEVEN,EIGHT,NINE"]⟩,
  ⟨0xE5A, "THAI CHARACTER ", ["ANGKHANKHU,KHOMUT"]⟩,
  ⟨0xE81, "LAO LETTER ", ["KO,KHO SUNG"]⟩,
  ⟨0xE84, "LAO LETTER KHO ", ["TAM"]⟩,
  ⟨0xE86, "LAO LETTER ", ["PALI GHA,NGO,CO,PALI CHA,SO TAM"]⟩,
  ⟨0xE8C, "LAO LETTER ", [
    "PALI JHA,NYO,PALI NYA,PALI TTA,PALI TTHA,PALI DDA,PALI DDHA,PALI NNA,DO,TO,THO SUNG",
    "THO TAM,PALI DHA,NO,BO,PO,PHO SUNG,FO TAM,PHO TAM,FO SUNG,PALI BHA,MO,YO,LO LING"]⟩,
  ⟨0xEA5, "LAO LETTER LO ", ["LOOT"]⟩,
  ⟨0xEA7, "LAO LETTER ", ["WO,SANSKRIT SHA,SANSKRIT SSA,SO SUNG,HO SUNG,PALI LLA,O,HO TAM"]⟩,
  ⟨0xEAF, "LAO ", ["ELLIPSIS"]⟩,
  ⟨0xEB0, "LAO VOWEL SIGN ", ["A,MAI KAN,AA,AM,I,II,Y,YY,U,UU"]⟩,
  ⟨0xEBA, "LAO ", ["SIGN PALI VIRAMA,VOWEL SIGN MAI KON,SEMIVOWEL SIGN LO,SEMIVOWEL SIGN NYO"]⟩,
  ⟨0xEC0, "LAO VOWEL SIGN ", ["E,EI,O,AY,AI"]⟩,
  ⟨0xEC6, "LAO KO ", ["LA"]⟩,
  ⟨0xEC8, "LAO TONE MAI ", ["EK,THO,TI,CATAWA"]⟩,
  ⟨0xECC, "LAO ", ["CANCELLATION MARK,NIGGAHITA"]⟩,
  ⟨0xED0, "LAO DIGIT ", ["ZERO,ONE,TWO,THREE,FOUR,FIVE,SIX,SEVEN,EIGHT,NINE"]⟩,
  ⟨0xEDC, "LAO ", ["HO NO,HO MO,LETTER KHMU GO,LETTER KHMU NYO"]⟩,
  ⟨0xF00, "TIBETAN SYLLABLE ", ["OM"]⟩,
  ⟨0xF01, "TIBETAN MARK ", [
    "GTER YIG MGO TRUNCATED A,GTER YIG MGO -UM RNAM BCAD MA,GTER YIG MGO -UM GTER TSHEG MA",
    "INITIAL YIG MGO MDUN MA,CLOSING YIG MGO SGAB MA,CARET YIG MGO PHUR SHAD MA",
    "YIG MGO TSHEG SHAD MA,SBRUL SHAD,BSKUR YIG MGO,BKA- SHOG YIG MGO,INTERSYLLABIC TSHEG",
    "DELIMITER TSHEG BSTAR,SHAD,NYIS SHAD,TSHEG SHAD,NYIS TSHEG SHAD,RIN CHEN SPUNGS SHAD",
    "RGYA GRAM SHAD,CARET -DZUD RTAGS ME LONG CAN,GTER TSHEG"]⟩,
  ⟨0xF15, "TIBETAN LOGOTYPE SIGN ", ["CHAD RTAGS,LHAG RTAGS"]⟩,
  ⟨0xF17, "TIBETAN ASTROLOGICAL SIGN ", ["SGRA GCAN -CHAR RTAGS,-KHYUD PA,SDONG TSHUGS"]⟩,
  ⟨0xF1A, "TIBETAN SIGN RDEL ", [
    "DKAR GCIG,DKAR GNYIS,DKAR GSUM,NAG GCIG,NAG GNYIS,DKAR RDEL NAG"]⟩,
  ⟨0xF20, "TIBETAN DIGIT ", ["ZERO,ONE,TWO,THREE,FOUR,FIVE,SIX,SEVEN,EIGHT,NINE"]⟩,
  ⟨0xF2A, "TIBETAN DIGIT HALF ", ["ONE,TWO,THREE,FOUR,FIVE,SIX,SEVEN,EIGHT,NINE,ZERO"]⟩,
  ⟨0xF34, "TIBETAN MARK ", [
    "BSDUS RTAGS,NGAS BZUNG NYI ZLA,CARET -DZUD RTAGS BZHI MIG CAN,NGAS BZUNG SGOR RTAGS",
    "CHE MGO,TSA -PHRU,GUG RTAGS GYON,GUG RTAGS GYAS,ANG KHANG GYON,ANG KHANG GYAS"]⟩,
  ⟨0xF3E, "TIBETAN SIGN ", ["YAR TSHES,MAR TSHES"]⟩,
  ⟨0xF40, "TIBETAN LETTER ", ["KA,KHA,GA,GHA,NGA,CA,CHA,JA"]⟩,
  ⟨0xF49, "TIBETAN LETTER ", [
    "NYA,TTA,TTHA,DDA,DDHA,NNA,TA,THA,DA,DHA,NA,PA,PHA,BA,BHA,MA,TSA,TSHA,DZA,DZHA,WA,ZHA,ZA",
    "-A,YA,RA,LA,SHA,SSA,SA,HA,A,KSSA,FIXED-FORM RA,KKA,RRA"]⟩,
  ⟨0xF71, "TIBETAN VOWEL SIGN ", [
    "AA,I,II,U,UU,VOCALIC R,VOCALIC RR,VOCALIC L,VOCALIC LL,E,EE,O,OO"]⟩,
  ⟨0xF7E, "TIBETAN ", [
    "SIGN RJES SU NGA RO,SIGN RNAM BCAD,VOWEL SIGN REVERSED I,VOWEL SIGN REVERSED II",
    "SIGN NYI ZLA NAA DA,SIGN SNA LDAN,MARK HALANTA,MARK PALUTA"]⟩,
  ⟨0xF86, "TIBETAN SIGN ", [
    "LCI RTAGS,YANG RTAGS,LCE TSA CAN,MCHU CAN,GRU CAN RGYINGS,GRU MED RGYINGS",
    "INVERTED MCHU CAN"]⟩,
  ⟨0xF8D, "TIBETAN SUBJOINED SIGN ", ["LCE TSA CAN,MCHU CAN,INVERTED MCHU CAN"]⟩,
  ⟨0xF90, "TIBETAN SUBJOINED LETTER ", ["KA,KHA,GA,GHA,NGA,CA,CHA,JA"]⟩,
  ⟨0xF99, "TIBETAN SUBJOINED LETTER ", [
    "NYA,TTA,TTHA,DDA,DDHA,NNA,TA,THA,DA,DHA,NA,PA,PHA,BA,BHA,MA,TSA,TSHA,DZA,DZHA,WA,ZHA,ZA",
    "-A,YA,RA,LA,SHA,SSA,SA,HA,A,KSSA,FIXED-FORM WA,FIXED-FORM YA,FIXED-FORM RA"]⟩,
  ⟨0xFBE, "TIBETAN KU RU ", ["KHA,KHA BZHI MIG CAN"]⟩,
  ⟨0xFC0, "TIBETAN CANTILLATION SIGN ", ["HEAVY BEAT,LIGHT BEAT,CANG TE-U,SBUB -CHAL"]⟩,
  ⟨0xFC4, "TIBETAN SYMBOL ", [
    "DRIL BU,RDO RJE,PADMA GDAN,RDO RJE RGYA GRAM,PHUR PA,NOR BU,NOR BU NYIS -KHYIL",
    "NOR BU GSUM -KHYIL,NOR BU BZHI -KHYIL"]⟩,
  ⟨0xFCE, "TIBETAN SIGN RDEL NAG ", ["RDEL DKAR,GSUM"]⟩,
  ⟨0xFD0, "TIBETAN MARK ", [
    "BSKA- SHOG GI MGO RGYAN,MNYAM YIG GI MGO RGYAN,NYIS TSHEG",
    "INITIAL BRDA RNYING YIG MGO MDUN MA,CLOSING BRDA RNYING YIG MGO SGAB MA"]⟩,
  ⟨0xFD5, "", [
    "RIGHT-FACING SVASTI SIGN,LEFT-FACING SVASTI SIGN,RIGHT-FACING SVASTI SIGN WITH DOTS",
    "LEFT-FACING SVASTI SIGN WITH DOTS,TIBETAN MARK LEADING MCHAN RTAGS",
    "TIBETAN MARK TRAILING MCHAN RTAGS"]⟩,
  ⟨0x1000, "MYANMAR LETTER ", [
    "KA,KHA,GA,GHA,NGA,CA,CHA,JA,JHA,NYA,NNYA,TTA,TTHA,DDA,DDHA,NNA,TA,THA,DA,DHA,NA,PA,PHA",
    "BA,BHA,MA,YA,RA,LA,WA,SA,HA,LLA,A,SHAN A,I,II,U,UU,E,MON E,O,AU"]⟩,
  ⟨0x102B, "MYANMAR VOWEL SIGN ", ["TALL AA,AA,I,II,U,UU,E,AI,MON II,MON O,E ABOVE"]⟩,
  ⟨0x1036, "MYANMAR SIGN ", ["ANUSVARA,DOT BELOW,VISARGA,VIRAMA,ASAT"]⟩,
  ⟨0x103B, "MYANMAR CONSONANT SIGN MEDIAL ", ["YA,RA,WA,HA"]⟩,
  ⟨0x103F, "MYANMAR ", [
    "LETTER GREAT SA,DIGIT ZERO,DIGIT ONE,DIGIT TWO,DIGIT THREE,DIGIT FOUR,DIGIT FIVE",
    "DIGIT SIX,DIGIT SEVEN,DIGIT EIGHT,DIGIT NINE,SIGN LITTLE SECTION,SIGN SECTION",
    "SYMBOL LOCATIVE,SYMBOL COMPLETED,SYMBOL AFOREMENTIONED,SYMBOL GENITIVE,LETTER SHA",
    "LETTER SSA"]⟩,
  ⟨0x1052, "MYANMAR LETTER VOCALIC ", ["R,RR,L,LL"]⟩,
  ⟨0x1056, "MYANMAR VOWEL SIGN VOCALIC ", ["R,RR,L,LL"]⟩,
  ⟨0x105A, "MYANMAR LETTER MON ", ["NGA,JHA,BBA,BBE"]⟩,
  ⟨0x105E, "MYANMAR CONSONANT SIGN MON MEDIAL ", ["NA,MA,LA"]⟩,
  ⟨0x1061, "MYANMAR ", [
    "LETTER SGAW KAREN SHA,VOWEL SIGN SGAW KAREN EU,TONE MARK SGAW KAREN HATHI",
    "TONE MARK SGAW KAREN KE PHO,LETTER WESTERN PWO KAREN THA,LETTER WESTERN PWO KAREN PWA"]⟩,
  ⟨0x1067, "MYANMAR VOWEL SIGN WESTERN PWO KAREN ", ["EU,UE"]⟩,
  ⟨0x1069, "MYANMAR SIGN WESTERN PWO KAREN ", ["TONE-1,TONE-2,TONE-3,TONE-4,TONE-5"]⟩,
  ⟨0x106E, "MYANMAR LETTER EASTERN PWO KAREN ", ["NNA,YWA,GHWA"]⟩,
  ⟨0x1071, "MYANMAR VOWEL SIGN ", ["GEBA KAREN I,KAYAH OE,KAYAH U,KAYAH EE"]⟩,
  ⟨0x1075, "MYANMAR LETTER SHAN ", ["KA,KHA,GA,CA,ZA,NYA,DA,NA,PHA,FA,BA,THA,HA"]⟩,
  ⟨0x1082, "MYANMAR CONSONANT SIGN SHAN MEDIAL ", ["WA"]⟩,
  ⟨0x1083, "MYANMAR VOWEL SIGN SHAN ", ["AA,E,E ABOVE,FINAL Y"]⟩,
  ⟨0x1087, "MYANMAR SIGN SHAN ", [
    "TONE-2,TONE-3,TONE-5,TONE-6,COUNCIL TONE-2,COUNCIL TONE-3,COUNCIL EMPHATIC TONE"]⟩,
  ⟨0x108E, "MYANMAR ", ["LETTER RUMAI PALAUNG FA,SIGN RUMAI PALAUNG TONE-5"]⟩,
  ⟨0x1090, "MYANMAR SHAN DIGIT ", ["ZERO,ONE,TWO,THREE,FOUR,FIVE,SIX,SEVEN,EIGHT,NINE"]⟩,
  ⟨0x109A, "MYANMAR ", [
    "SIGN KHAMTI TONE-1,SIGN KHAMTI TONE-3,VOWEL SIGN AITON A,VOWEL SIGN AITON AI",
    "SYMBOL SHAN ONE,SYMBOL SHAN EXCLAMATION"]⟩,
  ⟨0x10A0, "GEORGIAN CAPITAL LETTER ", [
    "AN,BAN,GAN,DON,EN,VIN,ZEN,TAN,IN,KAN,LAS,MAN,NAR,ON,PAR,ZHAR,RAE,SAN,TAR,UN,PHAR,KHAR",
    "GHAN,QAR,SHIN,CHIN,CAN,JIL,CIL,CHAR,XAN,JHAN,HAE,HE,HIE,WE,HAR,HOE"]⟩,
  ⟨0x10C7, "GEORGIAN CAPITAL LETTER ", ["YN"]⟩,
  ⟨0x10CD, "GEORGIAN CAPITAL LETTER ", ["AEN"]⟩,
  ⟨0x10D0, "GEORGIAN LETTER ", [
    "AN,BAN,GAN,DON,EN,VIN,ZEN,TAN,IN,KAN,LAS,MAN,NAR,ON,PAR,ZHAR,RAE,SAN,TAR,UN,PHAR,KHAR",
    "GHAN,QAR,SHIN,CHIN,CAN,JIL,CIL,CHAR,XAN,JHAN,HAE,HE,HIE,WE,HAR,HOE,FI,YN,ELIFI",
    "TURNED GAN,AIN"]⟩,
  ⟨0x10FB, "", ["GEORGIAN PARAGRAPH SEPARATOR,MODIFIER LETTER GEORGIAN NAR"]⟩,
  ⟨0x10FD, "GEORGIAN LETTER ", ["AEN,HARD SIGN,LABIAL SIGN"]⟩,
  ⟨0x1100, "HANGUL CHOSEONG ", [
    "KIYEOK,SSANGKIYEOK,NIEUN,TIKEUT,SSANGTIKEUT,RIEUL,MIEUM,PIEUP,SSANGPIEUP,SIOS,SSANGSIOS",
    "IEUNG,CIEUC,SSANGCIEUC,CHIEUCH,KHIEUKH,THIEUTH,PHIEUPH,HIEUH,NIEUN-KIYEOK,SSANGNIEUN",
    "NIEUN-TIKEUT,NIEUN-PIEUP,TIKEUT-KIYEOK,RIEUL-NIEUN,SSANGRIEUL,RIEUL-HIEUH,KAPYEOUNRIEUL",
    "MIEUM-PIEUP,KAPYEOUNMIEUM,PIEUP-KIYEOK,PIEUP-NIEUN,PIEUP-TIKEUT,PIEUP-SIOS",
    "PIEUP-SIOS-KIYEOK,PIEUP-SIOS-TIKEUT,PIEUP-SIOS-PIEUP,PIEUP-SSANGSIOS,PIEUP-SIOS-CIEUC",
    "PIEUP-CIEUC,PIEUP-CHIEUCH,PIEUP-THIEUTH,PIEUP-PHIEUPH,KAPYEOUNPIEUP,KAPYEOUNSSANGPIEUP",
    "SIOS-KIYEOK,SIOS-NIEUN,SIOS-TIKEUT,SIOS-RIEUL,SIOS-MIEUM,SIOS-PIEUP,SIOS-PIEUP-KIYEOK",
    "SIOS-SSANGSIOS,SIOS-IEUNG,SIOS-CIEUC,SIOS-CHIEUCH,SIOS-KHIEUKH,SIOS-THIEUTH,SIOS-PHIEUPH",
    "SIOS-HIEUH,CHITUEUMSIOS,CHITUEUMSSANGSIOS,CEONGCHIEUMSIOS,CEONGCHIEUMSSANGSIOS,PANSIOS",
    "IEUNG-KIYEOK,IEUNG-TIKEUT,IEUNG-MIEUM,IEUNG-PIEUP,IEUNG-SIOS,IEUNG-PANSIOS,SSANGIEUNG",
    "IEUNG-CIEUC,IEUNG-CHIEUCH,IEUNG-THIEUTH,IEUNG-PHIEUPH,YESIEUNG,CIEUC-IEUNG,CHITUEUMCIEUC",
    "CHITUEUMSSANGCIEUC,CEONGCHIEUMCIEUC,CEONGCHIEUMSSANGCIEUC,CHIEUCH-KHIEUKH,CHIEUCH-HIEUH",
    "CHITUEUMCHIEUCH,CEONGCHIEUMCHIEUCH,PHIEUPH-PIEUP,KAPYEOUNPHIEUPH,SSANGHIEUH,YEORINHIEUH",
    "KIYEOK-TIKEUT,NIEUN-SIOS,NIEUN-CIEUC,NIEUN-HIEUH,TIKEUT-RIEUL,FILLER"]⟩,
  ⟨0x1160, "HANGUL JUNGSEONG ", [
    "FILLER,A,AE,YA,YAE,EO,E,YEO,YE,O,WA,WAE,OE,YO,U,WEO,WE,WI,YU,EU,YI,I,A-O,A-U,YA-O,YA-YO",
    "EO-O,EO-U,EO-EU,YEO-O,YEO-U,O-EO,O-E,O-YE,O-O,O-U,YO-YA,YO-YAE,YO-YEO,YO-O,YO-I,U-A,U-AE",
    "U-EO-EU,U-YE,U-U,YU-A,YU-EO,YU-E,YU-YEO,YU-YE,YU-U,YU-I,EU-U,EU-EU,YI-U,I-A,I-YA,I-O,I-U",
    "I-EU,I-ARAEA,ARAEA,ARAEA-EO,ARAEA-U,ARAEA-I,SSANGARAEA,A-EU,YA-U,YEO-YA,O-YA,O-YAE"]⟩,
  ⟨0x11A8, "HANGUL JONGSEONG ", [
    "KIYEOK,SSANGKIYEOK,KIYEOK-SIOS,NIEUN,NIEUN-CIEUC,NIEUN-HIEUH,TIKEUT,RIEUL,RIEUL-KIYEOK",
    "RIEUL-MIEUM,RIEUL-PIEUP,RIEUL-SIOS,RIEUL-THIEUTH,RIEUL-PHIEUPH,RIEUL-HIEUH,MIEUM,PIEUP",
    "PIEUP-SIOS,SIOS,SSANGSIOS,IEUNG,CIEUC,CHIEUCH,KHIEUKH,THIEUTH,PHIEUPH,HIEUH,KIYEOK-RIEUL",
    "KIYEOK-SIOS-KIYEOK,NIEUN-KIYEOK,NIEUN-TIKEUT,NIEUN-SIOS,NIEUN-PANSIOS,NIEUN-THIEUTH",
    "TIKEUT-KIYEOK,TIKEUT-RIEUL,RIEUL-KIYEOK-SIOS,RIEUL-NIEUN,RIEUL-TIKEUT,RIEUL-TIKEUT-HIEUH",
    "SSANGRIEUL,RIEUL-MIEUM-KIYEOK,RIEUL-MIEUM-SIOS,RIEUL-PIEUP-SIOS,RIEUL-PIEUP-HIEUH",
    "RIEUL-KAPYEOUNPIEUP,RIEUL-SSANGSIOS,RIEUL-PANSIOS,RIEUL-KHIEUKH,RIEUL-YEORINHIEUH",
    "MIEUM-KIYEOK,MIEUM-RIEUL,MIEUM-PIEUP,MIEUM-SIOS,MIEUM-SSANGSIOS,MIEUM-PANSIOS",
    "MIEUM-CHIEUCH,MIEUM-HIEUH,KAPYEOUNMIEUM,PIEUP-RIEUL,PIEUP-PHIEUPH,PIEUP-HIEUH",
    "KAPYEOUNPIEUP,SIOS-KIYEOK,SIOS-TIKEUT,SIOS-RIEUL,SIOS-PIEUP,PANSIOS,IEUNG-KIYEOK",
    "IEUNG-SSANGKIYEOK,SSANGIEUNG,IEUNG-KHIEUKH,YESIEUNG,YESIEUNG-SIOS,YESIEUNG-PANSIOS",
    "PHIEUPH-PIEUP,KAPYEOUNPHIEUPH,HIEUH-NIEUN,HIEUH-RIEUL,HIEUH-MIEUM,HIEUH-PIEUP",
    "YEORINHIEUH,KIYEOK-NIEUN,KIYEOK-PIEUP,KIYEOK-CHIEUCH,KIYEOK-KHIEUKH,KIYEOK-HIEUH",
    "SSANGNIEUN"]⟩,
  ⟨0x1200, "ETHIOPIC SYLLABLE ", [
    "HA,HU,HI,HAA,HEE,HE,HO,HOA,LA,LU,LI,LAA,LEE,LE,LO,LWA,HHA,HHU,HHI,HHAA,HHEE,HHE,HHO,HHWA",
    "MA,MU,MI,MAA,MEE,ME,MO,MWA,SZA,SZU,SZI,SZAA,SZEE,SZE,SZO,SZWA,RA,RU,RI,RAA,REE,RE,RO,RWA",
    "SA,SU,SI,SAA,SEE,SE,SO,SWA,SHA,SHU,SHI,SHAA,SHEE,SHE,SHO,SHWA,QA,QU,QI,QAA,QEE,QE,QO,QOA",
    "QWA"]⟩,
  ⟨0x124A, "ETHIOPIC SYLLABLE ", ["QWI,QWAA,QWEE,QWE"]⟩,
  ⟨0x1250, "ETHIOPIC SYLLABLE ", ["QHA,QHU,QHI,QHAA,QHEE,QHE,QHO"]⟩,
  ⟨0x1258, "ETHIOPIC SYLLABLE ", ["QHWA"]⟩,
  ⟨0x125A, "ETHIOPIC SYLLABLE ", ["QHWI,QHWAA,QHWEE,QHWE"]⟩,
  ⟨0x1260, "ETHIOPIC SYLLABLE ", [
    "BA,BU,BI,BAA,BEE,BE,BO,BWA,VA,VU,VI,VAA,VEE,VE,VO,VWA,TA,TU,TI,TAA,TEE,TE,TO,TWA,CA,CU",
    "CI,CAA,CEE,CE,CO,CWA,XA,XU,XI,XAA,XEE,XE,XO,XOA,XWA"]⟩,
  ⟨0x128A, "ETHIOPIC SYLLABLE ", ["XWI,XWAA,XWEE,XWE"]⟩,
  ⟨0x1290, "ETHIOPIC SYLLABLE ", [
    "NA,NU,NI,NAA,NEE,NE,NO,NWA,NYA,NYU,NYI,NYAA,NYEE,NYE,NYO,NYWA,GLOTTAL A,GLOTTAL U",
    "GLOTTAL I,GLOTTAL AA,GLOTTAL EE,GLOTTAL E,GLOTTAL O,GLOTTAL WA,KA,KU,KI,KAA,KEE,KE,KO",
    "KOA,KWA"]⟩,
  ⟨0x12B2, "ETHIOPIC SYLLABLE ", ["KWI,KWAA,KWEE,KWE"]⟩,
  ⟨0x12B8, "ETHIOPIC SYLLABLE ", ["KXA,KXU,KXI,KXAA,KXEE,KXE,KXO"]⟩,
  ⟨0x12C0, "ETHIOPIC SYLLABLE ", ["KXWA"]⟩,
  ⟨0x12C2, "ETHIOPIC SYLLABLE ", ["KXWI,KXWAA,KXWEE,KXWE"]⟩,
  ⟨0x12C8, "ETHIOPIC SYLLABLE ", ["WA,WU,WI,WAA,WEE,WE,WO,WOA"]⟩,
  ⟨0x12D0, "ETHIOPIC SYLLABLE PHARYNGEAL ", ["A,U,I,AA,EE,E,O"]⟩,
  ⟨0x12D8, "ETHIOPIC SYLLABLE ", [
    "ZA,ZU,ZI,ZAA,ZEE,ZE,ZO,ZWA,ZHA,ZHU,ZHI,ZHAA,ZHEE,ZHE,ZHO,ZHWA,YA,YU,YI,YAA,YEE,YE,YO,YOA",
    "DA,DU,DI,DAA,DEE,DE,DO,DWA,DDA,DDU,DDI,DDAA,DDEE,DDE,DDO,DDWA,JA,JU,JI,JAA,JEE,JE,JO,JWA",
    "GA,GU,GI,GAA,GEE,GE,GO,GOA,GWA"]⟩,
  ⟨0x1312, "ETHIOPIC SYLLABLE ", ["GWI,GWAA,GWEE,GWE"]⟩,
  ⟨0x1318, "ETHIOPIC SYLLABLE ", [
    "GGA,GGU,GGI,GGAA,GGEE,GGE,GGO,GGWAA,THA,THU,THI,THAA,THEE,THE,THO,THWA,CHA,CHU,CHI,CHAA",
    "CHEE,CHE,CHO,CHWA,PHA,PHU,PHI,PHAA,PHEE,PHE,PHO,PHWA,TSA,TSU,TSI,TSAA,TSEE,TSE,TSO,TSWA",
    "TZA,TZU,TZI,TZAA,TZEE,TZE,TZO,TZOA,FA,FU,FI,FAA,FEE,FE,FO,FWA,PA,PU,PI,PAA,PEE,PE,PO,PWA",
    "RYA,MYA,FYA"]⟩,
  ⟨0x135D, "ETHIOPIC ", [
    "COMBINING GEMINATION AND VOWEL LENGTH MARK,COMBINING VOWEL LENGTH MARK",
    "COMBINING GEMINATION MARK,SECTION MARK,WORDSPACE,FULL STOP,COMMA,SEMICOLON,COLON",
    "PREFACE COLON,QUESTION MARK,PARAGRAPH SEPARATOR"]⟩,
  ⟨0x1369, "ETHIOPIC DIGIT ", ["ONE,TWO,THREE,FOUR,FIVE,SIX,SEVEN,EIGHT,NINE"]⟩,
  ⟨0x1372, "ETHIOPIC NUMBER ", [
    "TEN,TWENTY,THIRTY,FORTY,FIFTY,SIXTY,SEVENTY,EIGHTY,NINETY,HUNDRED,TEN THOUSAND"]⟩,
  ⟨0x1380, "ETHIOPIC SYLLABLE ", [
    "SEBATBEIT MWA,MWI,MWEE,MWE,SEBATBEIT BWA,BWI,BWEE,BWE,SEBATBEIT FWA,FWI,FWEE,FWE",
    "SEBATBEIT PWA,PWI,PWEE,PWE"]⟩,
  ⟨0x1390, "ETHIOPIC TONAL MARK ", [
    "YIZET,DERET,RIKRIK,SHORT RIKRIK,DIFAT,KENAT,CHIRET,HIDET,DERET-HIDET,KURT"]⟩,
  ⟨0x13A0, "CHEROKEE LETTER ", [
    "A,E,I,O,U,V,GA,KA,GE,GI,GO,GU,GV,HA,HE,HI,HO,HU,HV,LA,LE,LI,LO,LU,LV,MA,ME,MI,MO,MU,NA",
    "HNA,NAH,NE,NI,NO,NU,NV,QUA,QUE,QUI,QUO,QUU,QUV,SA,S,SE,SI,SO,SU,SV,DA,TA,DE,TE,DI,TI,DO",
    "DU,DV,DLA,TLA,TLE,TLI,TLO,TLU,TLV,TSA,TSE,TSI,TSO,TSU,TSV,WA,WE,WI,WO,WU,WV,YA,YE,YI,YO",
    "YU,YV,MV"]⟩,
  ⟨0x13F8, "CHEROKEE SMALL LETTER ", ["YE,YI,YO,YU,YV,MV"]⟩,
  ⟨0x1400, "CANADIAN SYLLABICS ", [
    "HYPHEN,E,AAI,I,II,O,OO,Y-CREE OO,CARRIER EE,CARRIER I,A,AA,WE,WEST-CREE WE,WI",
    "WEST-CREE WI,WII,WEST-CREE WII,WO,WEST-CREE WO,WOO,WEST-CREE WOO,NASKAPI WOO,WA",
    "WEST-CREE WA,WAA,WEST-CREE WAA,NASKAPI WAA,AI,Y-CREE W,GLOTTAL STOP"]⟩,
  ⟨0x141F, "CANADIAN SYLLABICS FINAL ", [
    "ACUTE,GRAVE,BOTTOM HALF RING,TOP HALF RING,RIGHT HALF RING,RING,DOUBLE ACUTE",
    "DOUBLE SHORT VERTICAL STROKES,MIDDLE DOT,SHORT HORIZONTAL STROKE,PLUS,DOWN TACK"]⟩,
  ⟨0x142B, "CANADIAN SYLLABICS ", [
    "EN,IN,ON,AN,PE,PAAI,PI,PII,PO,POO,Y-CREE POO,CARRIER HEE,CARRIER HI,PA,PAA,PWE",
    "WEST-CREE PWE,PWI,WEST-CREE PWI,PWII,WEST-CREE PWII,PWO,WEST-CREE PWO,PWOO",
    "WEST-CREE PWOO,PWA,WEST-CREE PWA,PWAA,WEST-CREE PWAA,Y-CREE PWAA,P,WEST-CREE P,CARRIER H",
    "TE,TAAI,TI,TII,TO,TOO,Y-CREE TOO,CARRIER DEE,CARRIER DI,TA,TAA,TWE,WEST-CREE TWE,TWI",
    "WEST-CREE TWI,TWII,WEST-CREE TWII,TWO,WEST-CREE TWO,TWOO,WEST-CREE TWOO,TWA",
    "WEST-CREE TWA,TWAA,WEST-CREE TWAA,NASKAPI TWAA,T,TTE,TTI,TTO,TTA,KE,KAAI,KI,KII,KO,KOO",
    "Y-CREE KOO,KA,KAA,KWE,WEST-CREE KWE,KWI,WEST-CREE KWI,KWII,WEST-CREE KWII,KWO",
    "WEST-CREE KWO,KWOO,WEST-CREE KWOO,KWA,WEST-CREE KWA,KWAA,WEST-CREE KWAA,NASKAPI KWAA,K",
    "KW,SOUTH-SLAVEY KEH,SOUTH-SLAVEY KIH,SOUTH-SLAVEY KOH,SOUTH-SLAVEY KAH,CE,CAAI,CI,CII,CO",
    "COO,Y-CREE COO,CA,CAA,CWE,WEST-CREE CWE,CWI,WEST-CREE CWI,CWII,WEST-CREE CWII,CWO",
    "WEST-CREE CWO,CWOO,WEST-CREE CWOO,CWA,WEST-CREE CWA,CWAA,WEST-CREE CWAA,NASKAPI CWAA,C",
    "SAYISI TH,ME,MAAI,MI,MII,MO,MOO,Y-CREE MOO,MA,MAA,MWE,WEST-CREE MWE,MWI,WEST-CREE MWI",
    "MWII,WEST-CREE MWII,MWO,WEST-CREE MWO,MWOO,WEST-CREE MWOO,MWA,WEST-CREE MWA,MWAA",
    "WEST-CREE MWAA,NASKAPI MWAA,M,WEST-CREE M,MH,ATHAPASCAN M,SAYISI M,NE,NAAI,NI,NII,NO,NOO",
    "Y-CREE NOO,NA,NAA,NWE,WEST-CREE NWE,NWA,WEST-CREE NWA,NWAA,WEST-CREE NWAA,NASKAPI NWAA,N",
    "CARRIER NG,NH,LE,LAAI,LI,LII,LO,LOO,Y-CREE LOO,LA,LAA,LWE,WEST-CREE LWE,LWI",
    "WEST-CREE LWI,LWII,WEST-CREE LWII,LWO,WEST-CREE LWO,LWOO,WEST-CREE LWOO,LWA",
    "WEST-CREE LWA,LWAA,WEST-CREE LWAA,L,WEST-CREE L,MEDIAL L,SE,SAAI,SI,SII,SO,SOO",
    "Y-CREE SOO,SA,SAA,SWE,WEST-CREE SWE,SWI,WEST-CREE SWI,SWII,WEST-CREE SWII,SWO",
    "WEST-CREE SWO,SWOO,WEST-CREE SWOO,SWA,WEST-CREE SWA,SWAA,WEST-CREE SWAA,NASKAPI SWAA,S",
    "ATHAPASCAN S,SW,BLACKFOOT S,MOOSE-CREE SK,NASKAPI SKW,NASKAPI S-W,NASKAPI SPWA",
    "NASKAPI STWA,NASKAPI SKWA,NASKAPI SCWA,SHE,SHI,SHII,SHO,SHOO,SHA,SHAA,SHWE",
    "WEST-CREE SHWE,SHWI,WEST-CREE SHWI,SHWII,WEST-CREE SHWII,SHWO,WEST-CREE SHWO,SHWOO",
    "WEST-CREE SHWOO,SHWA,WEST-CREE SHWA,SHWAA,WEST-CREE SHWAA,SH,YE,YAAI,YI,YII,YO,YOO",
    "Y-CREE YOO,YA,YAA,YWE,WEST-CREE YWE,YWI,WEST-CREE YWI,YWII,WEST-CREE YWII,YWO",
    "WEST-CREE YWO,YWOO,WEST-CREE YWOO,YWA,WEST-CREE YWA,YWAA,WEST-CREE YWAA,NASKAPI YWAA,Y",
    "BIBLE-CREE Y,WEST-CREE Y,SAYISI YI,RE,R-CREE RE,WEST-CREE LE,RAAI,RI,RII,RO,ROO",
    "WEST-CREE LO,RA,RAA,WEST-CREE LA,RWAA,WEST-CREE RWAA,R,WEST-CREE R,MEDIAL R,FE,FAAI,FI",
    "FII,FO,FOO,FA,FAA,FWAA,WEST-CREE FWAA,F,THE,N-CREE THE,THI,N-CREE THI,THII,N-CREE THII",
    "THO,THOO,THA,THAA,THWAA,WEST-CREE THWAA,TH,TTHE,TTHI,TTHO,TTHA,TTH,TYE,TYI,TYO,TYA",
    "NUNAVIK HE,NUNAVIK HI,NUNAVIK HII,NUNAVIK HO,NUNAVIK HOO,NUNAVIK HA,NUNAVIK HAA",
    "NUNAVIK H,NUNAVUT H,HK,QAAI,QI,QII,QO,QOO,QA,QAA,Q,TLHE,TLHI,TLHO,TLHA,WEST-CREE RE",
    "WEST-CREE RI,WEST-CREE RO,WEST-CREE RA,NGAAI,NGI,NGII,NGO,NGOO,NGA,NGAA,NG,NNG",
    "SAYISI SHE,SAYISI SHI,SAYISI SHO,SAYISI SHA,WOODS-CREE THE,WOODS-CREE THI,WOODS-CREE THO",
    "WOODS-CREE THA,WOODS-CREE TH,LHI,LHII,LHO,LHOO,LHA,LHAA,LH,TH-CREE THE,TH-CREE THI",
    "TH-CREE THII,TH-CREE THO,TH-CREE THOO,TH-CREE THA,TH-CREE THAA,TH-CREE TH,AIVILIK B"]⟩,
  ⟨0x15B0, "CANADIAN SYLLABICS BLACKFOOT ", ["E,I,O,A,WE,WI,WO,WA,NE,NI,NO,NA,KE,KI,KO,KA"]⟩,
  ⟨0x15C0, "CANADIAN SYLLABICS SAYISI ", ["HE,HI,HO,HA"]⟩,
  ⟨0x15C4, "CANADIAN SYLLABICS CARRIER ", [
    "GHU,GHO,GHE,GHEE,GHI,GHA,RU,RO,RE,REE,RI,RA,WU,WO,WE,WEE,WI,WA,HWU,HWO,HWE,HWEE,HWI,HWA",
    "THU,THO,THE,THEE,THI,THA,TTU,TTO,TTE,TTEE,TTI,TTA,PU,PO,PE,PEE,PI,PA,P,GU,GO,GE,GEE,GI",
    "GA,KHU,KHO,KHE,KHEE,KHI,KHA,KKU,KKO,KKE,KKEE,KKI,KKA,KK,NU,NO,NE,NEE,NI,NA,MU,MO,ME,MEE",
    "MI,MA,YU,YO,YE,YEE,YI,YA,JU"]⟩,
  ⟨0x1615, "CANADIAN SYLLABICS ", [
    "SAYISI JU,CARRIER JO,CARRIER JE,CARRIER JEE,CARRIER JI,SAYISI JI"]⟩,
  ⟨0x161B, "CANADIAN SYLLABICS CARRIER ", [
    "JA,JJU,JJO,JJE,JJEE,JJI,JJA,LU,LO,LE,LEE,LI,LA,DLU,DLO,DLE,DLEE,DLI,DLA,LHU,LHO,LHE,LHEE",
    "LHI,LHA,TLHU,TLHO,TLHE,TLHEE,TLHI,TLHA,TLU,TLO,TLE,TLEE,TLI,TLA,ZU,ZO,ZE,ZEE,ZI,ZA,Z",
    "INITIAL Z,DZU,DZO,DZE,DZEE,DZI,DZA,SU,SO,SE,SEE,SI,SA,SHU,SHO,SHE,SHEE,SHI,SHA,SH,TSU",
    "TSO,TSE,TSEE,TSI,TSA,CHU,CHO,CHE,CHEE,CHI,CHA,TTSU,TTSO,TTSE,TTSEE,TTSI,TTSA"]⟩,
  ⟨0x166D, "CANADIAN SYLLABICS ", [
    "CHI SIGN,FULL STOP,QAI,NGAI,NNGI,NNGII,NNGO,NNGOO,NNGA,NNGAA"]⟩,
  ⟨0x1677, "CANADIAN SYLLABICS WOODS-CREE ", ["THWEE,THWI,THWII,THWO,THWOO,THWA,THWAA,FINAL TH"]⟩,
  ⟨0x167F, "", ["CANADIAN SYLLABICS BLACKFOOT W,OGHAM SPACE MARK"]⟩,
  ⟨0x1681, "OGHAM LETTER ", [
    "BEITH,LUIS,FEARN,SAIL,NION,UATH,DAIR,TINNE,COLL,CEIRT,MUIN,GORT,NGEADAL,STRAIF,RUIS,AILM",
    "ONN,UR,EADHADH,IODHADH,EABHADH,OR,UILLEANN,IFIN,EAMHANCHOLL,PEITH"]⟩,
  ⟨0x169B, "OGHAM ", ["FEATHER MARK,REVERSED FEATHER MARK"]⟩,
  ⟨0x16A0, "RUNIC LETTER ", [
    "FEHU FEOH FE F,V,URUZ UR U,YR,Y,W,THURISAZ THURS THORN,ETH,ANSUZ A,OS O,AC A,AESC",
    "LONG-BRANCH-OSS O,SHORT-TWIG-OSS O,O,OE,ON,RAIDO RAD REID R,KAUNA,CEN,KAUN K,G,ENG",
    "GEBO GYFU G,GAR,WUNJO WYNN W,HAGLAZ H,HAEGL H,LONG-BRANCH-HAGALL H,SHORT-TWIG-HAGALL H",
    "NAUDIZ NYD NAUD N,SHORT-TWIG-NAUD N,DOTTED-N,ISAZ IS ISS I,E,JERAN J,GER",
    "LONG-BRANCH-AR AE,SHORT-TWIG-AR A,IWAZ EOH,PERTHO PEORTH P,ALGIZ EOLHX,SOWILO S",
    "SIGEL LONG-BRANCH-SOL S,SHORT-TWIG-SOL S,C,Z,TIWAZ TIR TYR T,SHORT-TWIG-TYR T,D",
    "BERKANAN BEORC BJARKAN B,SHORT-TWIG-BJARKAN B,DOTTED-P,OPEN-P,EHWAZ EH E,MANNAZ MAN M",
    "LONG-BRANCH-MADR M,SHORT-TWIG-MADR M,LAUKAZ LAGU LOGR L,DOTTED-L,INGWAZ,ING,DAGAZ DAEG D",
    "OTHALAN ETHEL O,EAR,IOR,CWEORTH,CALC,CEALC,STAN,LONG-BRANCH-YR,SHORT-TWIG-YR",
    "ICELANDIC-YR,Q,X"]⟩,
  ⟨0x16EB, "RUNIC ", [
    "SINGLE PUNCTUATION,MULTIPLE PUNCTUATION,CROSS PUNCTUATION,ARLAUG SYMBOL,TVIMADUR SYMBOL",
    "BELGTHOR SYMBOL,LETTER K,LETTER SH,LETTER OO"]⟩,
  ⟨0x16F4, "RUNIC LETTER FRANKS CASKET ", ["OS,IS,EH,AC,AESC"]⟩,
  ⟨0x1700, "TAGALOG LETTER ", ["A,I,U,KA,GA,NGA,TA,DA,NA,PA,BA,MA,YA,RA,LA,WA,SA,HA"]⟩,
  ⟨0x1712, "TAGALOG ", ["VOWEL SIGN I,VOWEL SIGN U,SIGN VIRAMA,SIGN PAMUDPOD"]⟩,
  ⟨0x171F, "TAGALOG LETTER ARCHAIC ", ["RA"]⟩,
  ⟨0x1720, "HANUNOO LETTER ", ["A,I,U,KA,GA,NGA,TA,DA,NA,PA,BA,MA,YA,RA,LA,WA,SA,HA"]⟩,
  ⟨0x1732, "HANUNOO ", ["VOWEL SIGN I,VOWEL SIGN U,SIGN PAMUDPOD"]⟩,
  ⟨0x1735, "PHILIPPINE ", ["SINGLE PUNCTUATION,DOUBLE PUNCTUATION"]⟩,
  ⟨0x1740, "BUHID LETTER ", ["A,I,U,KA,GA,NGA,TA,DA,NA,PA,BA,MA,YA,RA,LA,WA,SA,HA"]⟩,
  ⟨0x1752, "BUHID VOWEL SIGN ", ["I,U"]⟩,
  ⟨0x1760, "TAGBANWA LETTER ", ["A,I,U,KA,GA,NGA,TA,DA,NA,PA,BA,MA,YA"]⟩,
  ⟨0x176E, "TAGBANWA LETTER ", ["LA,WA,SA"]⟩,
  ⟨0x1772, "TAGBANWA VOWEL SIGN ", ["I,U"]⟩,
  ⟨0x1780, "KHMER LETTER ", [
    "KA,KHA,KO,KHO,NGO,CA,CHA,CO,CHO,NYO,DA,TTHA,DO,TTHO,NNO,TA,THA,TO,THO,NO,BA,PHA,PO,PHO",
    "MO,YO,RO,LO,VO,SHA,SSO,SA,HA,LA,QA"]⟩,
  ⟨0x17A3, "KHMER INDEPENDENT VOWEL ", [
    "QAQ,QAA,QI,QII,QU,QUK,QUU,QUUV,RY,RYY,LY,LYY,QE,QAI,QOO TYPE ONE,QOO TYPE TWO,QAU"]⟩,
  ⟨0x17B4, "KHMER VOWEL INHERENT ", ["AQ,AA"]⟩,
  ⟨0x17B6, "KHMER VOWEL SIGN ", ["AA,I,II,Y,YY,U,UU,UA,OE,YA,IE,E,AE,AI,OO,AU"]⟩,
  ⟨0x17C6, "KHMER SIGN ", [
    "NIKAHIT,REAHMUK,YUUKALEAPINTU,MUUSIKATOAN,TRIISAP,BANTOC,ROBAT,TOANDAKHIAT,KAKABAT,AHSDA",
    "SAMYOK SANNYA,VIRIAM,COENG,BATHAMASAT,KHAN,BARIYOOSAN,CAMNUC PII KUUH,LEK TOO,BEYYAL",
    "PHNAEK MUAN,KOOMUUT"]⟩,
  ⟨0x17DB, "KHMER ", ["CURRENCY SYMBOL RIEL,SIGN AVAKRAHASANYA,SIGN ATTHACAN"]⟩,
  ⟨0x17E0, "KHMER DIGIT ", ["ZERO,ONE,TWO,THREE,FOUR,FIVE,SIX,SEVEN,EIGHT,NINE"]⟩,
  ⟨0x17F0, "KHMER SYMBOL LEK ATTAK ", [
    "SON,MUOY,PII,BEI,BUON,PRAM,PRAM-MUOY,PRAM-PII,PRAM-BEI,PRAM-BUON"]⟩,
  ⟨0x1800, "MONGOLIAN ", [
    "BIRGA,ELLIPSIS,COMMA,FULL STOP,COLON,FOUR DOTS,TODO SOFT HYPHEN",
    "SIBE SYLLABLE BOUNDARY MARKER,MANCHU COMMA,MANCHU FULL STOP,NIRUGU",
    "FREE VARIATION SELECTOR ONE,FREE VARIATION SELECTOR TWO,FREE VARIATION SELECTOR THREE",
    "VOWEL SEPARATOR,FREE VARIATION SELECTOR FOUR"]⟩,
  ⟨0x1810, "MONGOLIAN DIGIT ", ["ZERO,ONE,TWO,THREE,FOUR,FIVE,SIX,SEVEN,EIGHT,NINE"]⟩,
  ⟨0x1820, "MONGOLIAN LETTER ", [
    "A,E,I,O,U,OE,UE,EE,NA,ANG,BA,PA,QA,GA,MA,LA,SA,SHA,TA,DA,CHA,JA,YA,RA,WA,FA,KA,KHA,TSA",
    "ZA,HAA,ZRA,LHA,ZHI,CHI"]⟩,
  ⟨0x1843, "MONGOLIAN LETTER TODO ", [
    "LONG VOWEL SIGN,E,I,O,U,OE,UE,ANG,BA,PA,QA,GA,MA,TA,DA,CHA,JA,TSA,YA,WA,KA,GAA,HAA,JIA",
    "NIA,DZA"]⟩,
  ⟨0x185D, "MONGOLIAN LETTER SIBE ", [
    "E,I,IY,UE,U,ANG,KA,GA,HA,PA,SHA,TA,DA,JA,FA,GAA,HAA,TSA,ZA,RAA,CHA,ZHA"]⟩,
  ⟨0x1873, "MONGOLIAN LETTER ", [
    "MANCHU I,MANCHU KA,MANCHU RA,MANCHU FA,MANCHU ZHA,CHA WITH TWO DOTS"]⟩,
  ⟨0x1880, "MONGOLIAN LETTER ALI GALI ", [
    "ANUSVARA ONE,VISARGA ONE,DAMARU,UBADAMA,INVERTED UBADAMA,BALUDA,THREE BALUDA,A,I,KA,NGA",
    "CA,TTA,TTHA,DDA,NNA,TA,DA,PA,PHA,SSA,ZHA,ZA,AH"]⟩,
  ⟨0x1898, "MONGOLIAN LETTER TODO ALI GALI ", ["TA,ZHA"]⟩,
  ⟨0x189A, "MONGOLIAN LETTER MANCHU ALI GALI ", ["GHA,NGA,CA,JHA,TTA,DDHA,TA,DHA,SSA,CYA,ZHA,ZA"]⟩,
  ⟨0x18A6, "MONGOLIAN LETTER ", [
    "ALI GALI HALF U,ALI GALI HALF YA,MANCHU ALI GALI BHA,ALI GALI DAGALGA",
    "MANCHU ALI GALI LHA"]⟩,
  ⟨0x18B0, "CANADIAN SYLLABICS ", [
    "OY,AY,AAY,WAY,POY,PAY,PWOY,TAY,KAY,KWAY,MAY,NOY,NAY,LAY,SOY,SAY,SHOY,SHAY,SHWOY,YOY,YAY",
    "RAY,NWI,OJIBWAY NWI,NWII,OJIBWAY NWII,NWO,OJIBWAY NWO,NWOO,OJIBWAY NWOO,RWEE,RWI,RWII",
    "RWO,RWOO,RWA,OJIBWAY P,OJIBWAY T,OJIBWAY K,OJIBWAY C,OJIBWAY M,OJIBWAY N,OJIBWAY S",
    "OJIBWAY SH,EASTERN W,WESTERN W,FINAL SMALL RING,FINAL RAISED DOT,R-CREE RWE",
    "WEST-CREE LOO,WEST-CREE LAA,THWE,THWA,TTHWE,TTHOO,TTHAA,TLHWE,TLHOO,SAYISI SHWE",
    "SAYISI SHOO,SAYISI HOO,CARRIER GWU,CARRIER DENE GEE,CARRIER GAA,CARRIER GWA,SAYISI JUU",
    "CARRIER JWA,BEAVER DENE L,BEAVER DENE R,CARRIER DENTAL S"]⟩,
  ⟨0x1900, "LIMBU VOWEL-CARRIER ", ["LETTER"]⟩,
  ⟨0x1901, "LIMBU LETTER ", [
    "KA,KHA,GA,GHA,NGA,CA,CHA,JA,JHA,YAN,TA,THA,DA,DHA,NA,PA,PHA,BA,BHA,MA,YA,RA,LA,WA,SHA",
    "SSA,SA,HA,GYAN,TRA"]⟩,
  ⟨0x1920, "LIMBU VOWEL SIGN ", ["A,I,U,EE,AI,OO,AU,E,O"]⟩,
  ⟨0x1929, "LIMBU SUBJOINED LETTER ", ["YA,RA,WA"]⟩,
  ⟨0x1930, "LIMBU SMALL LETTER ", ["KA,NGA,ANUSVARA,TA,NA,PA,MA,RA,LA"]⟩,
  ⟨0x1939, "LIMBU SIGN ", ["MUKPHRENG,KEMPHRENG,SA-I"]⟩,
  ⟨0x1940, "LIMBU SIGN ", ["LOO"]⟩,
  ⟨0x1944, "LIMBU ", ["EXCLAMATION MARK,QUESTION MARK"]⟩,
  ⟨0x1946, "LIMBU DIGIT ", ["ZERO,ONE,TWO,THREE,FOUR,FIVE,SIX,SEVEN,EIGHT,NINE"]⟩,
  ⟨0x1950, "TAI LE LETTER ", [
    "KA,XA,NGA,TSA,SA,YA,TA,THA,LA,PA,PHA,MA,FA,VA,HA,QA,KHA,TSHA,NA,A,I,EE,EH,U,OO,O,UE,E",
    "AUE,AI"]⟩,
  ⟨0x1970, "TAI LE LETTER ", ["TONE-2,TONE-3,TONE-4,TONE-5,TONE-6"]⟩,
  ⟨0x1980, "NEW TAI LUE LETTER ", [
    "HIGH QA,LOW QA,HIGH KA,HIGH XA,HIGH NGA,LOW KA,LOW XA,LOW NGA,HIGH TSA,HIGH SA,HIGH YA",
    "LOW TSA,LOW SA,LOW YA,HIGH TA,HIGH THA,HIGH NA,LOW TA,LOW THA,LOW NA,HIGH PA,HIGH PHA",
    "HIGH MA,LOW PA,LOW PHA,LOW MA,HIGH FA,HIGH VA,HIGH LA,LOW FA,LOW VA,LOW LA,HIGH HA",
    "HIGH DA,HIGH BA,LOW HA,LOW DA,LOW BA,HIGH KVA,HIGH XVA,LOW KVA,LOW XVA,HIGH SUA,LOW SUA"]⟩,
  ⟨0x19B0, "NEW TAI LUE VOWEL SIGN ", [
    "VOWEL SHORTENER,AA,II,U,UU,E,AE,O,OA,UE,AY,AAY,UY,OY,OAY,UEY,IY"]⟩,
  ⟨0x19C1, "NEW TAI LUE LETTER FINAL ", ["V,NG,N,M,K,D,B"]⟩,
  ⟨0x19C8, "NEW TAI LUE TONE ", ["MARK-1,MARK-2"]⟩,
  ⟨0x19D0, "NEW TAI LUE DIGIT ", ["ZERO,ONE,TWO,THREE,FOUR,FIVE,SIX,SEVEN,EIGHT,NINE"]⟩,
  ⟨0x19DA, "NEW TAI LUE THAM DIGIT ", ["ONE"]⟩,
  ⟨0x19DE, "NEW TAI LUE SIGN ", ["LAE,LAEV"]⟩,
  ⟨0x19E0, "KHMER SYMBOL ", [
    "PATHAMASAT,MUOY KOET,PII KOET,BEI KOET,BUON KOET,PRAM KOET,PRAM-MUOY KOET,PRAM-PII KOET",
    "PRAM-BEI KOET,PRAM-BUON KOET,DAP KOET,DAP-MUOY KOET,DAP-PII KOET,DAP-BEI KOET",
    "DAP-BUON KOET,DAP-PRAM KOET,TUTEYASAT,MUOY ROC,PII ROC,BEI ROC,BUON ROC,PRAM ROC",
    "PRAM-MUOY ROC,PRAM-PII ROC,PRAM-BEI ROC,PRAM-BUON ROC,DAP ROC,DAP-MUOY ROC,DAP-PII ROC",
    "DAP-BEI ROC,DAP-BUON ROC,DAP-PRAM ROC"]⟩,
  ⟨0x1A00, "BUGINESE LETTER ", [
    "KA,GA,NGA,NGKA,PA,BA,MA,MPA,TA,DA,NA,NRA,CA,JA,NYA,NYCA,YA,RA,LA,VA,SA,A,HA"]⟩,
  ⟨0x1A17, "BUGINESE VOWEL SIGN ", ["I,U,E,O,AE"]⟩,
  ⟨0x1A1E, "BUGINESE ", ["PALLAWA,END OF SECTION"]⟩,
  ⟨0x1A20, "TAI THAM LETTER ", [
    "HIGH KA,HIGH KHA,HIGH KXA,LOW KA,LOW KXA,LOW KHA,NGA,HIGH CA,HIGH CHA,LOW CA,LOW SA",
    "LOW CHA,NYA,RATA,HIGH RATHA,DA,LOW RATHA,RANA,HIGH TA,HIGH THA,LOW TA,LOW THA,NA,BA",
    "HIGH PA,HIGH PHA,HIGH FA,LOW PA,LOW FA,LOW PHA,MA,LOW YA,HIGH YA,RA,RUE,LA,LUE,WA",
    "HIGH SHA,HIGH SSA,HIGH SA,HIGH HA,LLA,A,LOW HA,I,II,U,UU,EE,OO,LAE,GREAT SA"]⟩,
  ⟨0x1A55, "TAI THAM CONSONANT SIGN ", ["MEDIAL RA,MEDIAL LA,LA TANG LAI"]⟩,
  ⟨0x1A58, "TAI THAM SIGN MAI KANG ", ["LAI"]⟩,
  ⟨0x1A59, "TAI THAM CONSONANT SIGN ", ["FINAL NGA,LOW PA,HIGH RATHA OR LOW PA,MA,BA,SA"]⟩,
  ⟨0x1A60, "TAI THAM SIGN ", ["SAKOT"]⟩,
  ⟨0x1A61, "TAI THAM VOWEL SIGN ", [
    "A,MAI SAT,AA,TALL AA,I,II,UE,UUE,U,UU,O,OA BELOW,OY,E,AE,OO,AI,THAM AI,OA ABOVE"]⟩,
  ⟨0x1A74, "TAI THAM SIGN ", [
    "MAI KANG,TONE-1,TONE-2,KHUEN TONE-3,KHUEN TONE-4,KHUEN TONE-5,RA HAAM,MAI SAM",
    "KHUEN-LUE KARAN"]⟩,
  ⟨0x1A7F, "TAI THAM COMBINING CRYPTOGRAMMIC ", ["DOT"]⟩,
  ⟨0x1A80, "TAI THAM HORA DIGIT ", ["ZERO,ONE,TWO,THREE,FOUR,FIVE,SIX,SEVEN,EIGHT,NINE"]⟩,
  ⟨0x1A90, "TAI THAM THAM DIGIT ", ["ZERO,ONE,TWO,THREE,FOUR,FIVE,SIX,SEVEN,EIGHT,NINE"]⟩,
  ⟨0x1AA0, "TAI THAM SIGN ", [
    "WIANG,WIANGWAAK,SAWAN,KEOW,HOY,DOKMAI,REVERSED ROTATED RANA,MAI YAMOK,KAAN,KAANKUU",
    "SATKAAN,SATKAANKUU,HANG,CAANG"]⟩,
  ⟨0x1AB0, "COMBINING ", [
    "DOUBLED CIRCUMFLEX ACCENT,DIAERESIS-RING,INFINITY,DOWNWARDS ARROW,TRIPLE DOT,X-X BELOW",
    "WIGGLY LINE BELOW,OPEN MARK BELOW,DOUBLE OPEN MARK BELOW",
    "LIGHT CENTRALIZATION STROKE BELOW,STRONG CENTRALIZATION STROKE BELOW,PARENTHESES ABOVE",
    "DOUBLE PARENTHESES ABOVE,PARENTHESES BELOW,PARENTHESES OVERLAY",
    "LATIN SMALL LETTER W BELOW,LATIN SMALL LETTER TURNED W BELOW,LEFT PARENTHESIS ABOVE LEFT",
    "RIGHT PARENTHESIS ABOVE RIGHT,LEFT PARENTHESIS BELOW LEFT,RIGHT PARENTHESIS BELOW RIGHT",
    "SQUARE BRACKETS ABOVE,NUMBER SIGN ABOVE,INVERTED DOUBLE ARCH ABOVE,PLUS SIGN ABOVE",
    "DOUBLE PLUS SIGN ABOVE,DOUBLE PLUS SIGN BELOW,TRIPLE ACUTE ACCENT"]⟩,
  ⟨0x1ACC, "COMBINING LATIN SMALL LETTER INSULAR ", ["G,R,T"]⟩,
  ⟨0x1B00, "BALINESE SIGN ", ["ULU RICEM,ULU CANDRA,CECEK,SURANG,BISAH"]⟩,
  ⟨0x1B05, "BALINESE LETTER ", [
    "AKARA,AKARA TEDUNG,IKARA,IKARA TEDUNG,UKARA,UKARA TEDUNG,RA REPA,RA REPA TEDUNG,LA LENGA",
    "LA LENGA TEDUNG,EKARA,AIKARA,OKARA,OKARA TEDUNG,KA,KA MAHAPRANA,GA,GA GORA,NGA,CA",
    "CA LACA,JA,JA JERA,NYA,TA LATIK,TA MURDA MAHAPRANA,DA MURDA ALPAPRANA,DA MURDA MAHAPRANA",
    "NA RAMBAT,TA,TA TAWA,DA,DA MADU,NA,PA,PA KAPAL,BA,BA KEMBANG,MA,YA,RA,LA,WA,SA SAGA",
    "SA SAPA,SA,HA"]⟩,
  ⟨0x1B34, "BALINESE SIGN ", ["REREKAN"]⟩,
  ⟨0x1B35, "BALINESE VOWEL SIGN ", [
    "TEDUNG,ULU,ULU SARI,SUKU,SUKU ILUT,RA REPA,RA REPA TEDUNG,LA LENGA,LA LENGA TEDUNG",
    "TALING,TALING REPA,TALING TEDUNG,TALING REPA TEDUNG,PEPET,PEPET TEDUNG"]⟩,
  ⟨0x1B44, "BALINESE ADEG ", ["ADEG"]⟩,
  ⟨0x1B45, "BALINESE LETTER ", [
    "KAF SASAK,KHOT SASAK,TZIR SASAK,EF SASAK,VE SASAK,ZAL SASAK,ASYURA SASAK,ARCHAIC JNYA"]⟩,
  ⟨0x1B50, "BALINESE DIGIT ", ["ZERO,ONE,TWO,THREE,FOUR,FIVE,SIX,SEVEN,EIGHT,NINE"]⟩,
  ⟨0x1B5A, "BALINESE ", ["PANTI,PAMADA,WINDU,CARIK PAMUNGKAH,CARIK SIKI,CARIK PAREREN,PAMENENG"]⟩,
  ⟨0x1B61, "BALINESE MUSICAL SYMBOL ", [
    "DONG,DENG,DUNG,DANG,DANG SURANG,DING,DAENG,DEUNG,DAING,DANG GEDE"]⟩,
  ⟨0x1B6B, "BALINESE MUSICAL SYMBOL COMBINING ", [
    "TEGEH,ENDEP,KEMPUL,KEMPLI,JEGOGAN,KEMPUL WITH JEGOGAN,KEMPLI WITH JEGOGAN,BENDE,GONG"]⟩,
  ⟨0x1B74, "BALINESE MUSICAL SYMBOL RIGHT-HAND ", ["OPEN DUG,OPEN DAG,CLOSED TUK,CLOSED TAK"]⟩,
  ⟨0x1B78, "BALINESE MUSICAL SYMBOL LEFT-HAND ", [
    "OPEN PANG,OPEN PUNG,CLOSED PLAK,CLOSED PLUK,OPEN PING"]⟩,
  ⟨0x1B7D, "BALINESE ", ["PANTI LANTANG,PAMADA LANTANG"]⟩,
  ⟨0x1B80, "SUNDANESE SIGN ", ["PANYECEK,PANGLAYAR,PANGWISAD"]⟩,
  ⟨0x1B83, "SUNDANESE LETTER ", [
    "A,I,U,AE,O,E,EU,KA,QA,GA,NGA,CA,JA,ZA,NYA,TA,DA,NA,PA,FA,VA,BA,MA,YA,RA,LA,WA,SA,XA,HA"]⟩,
  ⟨0x1BA1, "SUNDANESE CONSONANT SIGN ", ["PAMINGKAL,PANYAKRA,PANYIKU"]⟩,
  ⟨0x1BA4, "SUNDANESE VOWEL SIGN ", ["PANGHULU,PANYUKU,PANAELAENG,PANOLONG,PAMEPET,PANEULEUNG"]⟩,
  ⟨0x1BAA, "SUNDANESE ", [
    "SIGN PAMAAEH,SIGN VIRAMA,CONSONANT SIGN PASANGAN MA,CONSONANT SIGN PASANGAN WA",
    "LETTER KHA,LETTER SYA,DIGIT ZERO,DIGIT ONE,DIGIT TWO,DIGIT THREE,DIGIT FOUR,DIGIT FIVE",
    "DIGIT SIX,DIGIT SEVEN,DIGIT EIGHT,DIGIT NINE,AVAGRAHA,LETTER REU,LETTER LEU,LETTER BHA",
    "LETTER FINAL K,LETTER FINAL M"]⟩,
  ⟨0x1BC0, "BATAK LETTER ", [
    "A,SIMALUNGUN A,HA,SIMALUNGUN HA,MANDAILING HA,BA,KARO BA,PA,SIMALUNGUN PA,NA",
    "MANDAILING NA,WA,SIMALUNGUN WA,PAKPAK WA,GA,SIMALUNGUN GA,JA,DA,RA,SIMALUNGUN RA,MA",
    "SIMALUNGUN MA,SOUTHERN TA,NORTHERN TA,SA,SIMALUNGUN SA,MANDAILING SA,YA,SIMALUNGUN YA",
    "NGA,LA,SIMALUNGUN LA,NYA,CA,NDA,MBA,I,U"]⟩,
  ⟨0x1BE6, "BATAK SIGN ", ["TOMPI"]⟩,
  ⟨0x1BE7, "BATAK VOWEL SIGN ", ["E,PAKPAK E,EE,I,KARO I,O,KARO O,U,U FOR SIMALUNGUN SA"]⟩,
  ⟨0x1BF0, "BATAK ", ["CONSONANT SIGN NG,CONSONANT SIGN H,PANGOLAT,PANONGONAN"]⟩,
  ⟨0x1BFC, "BATAK SYMBOL BINDU ", ["NA METEK,PINARBORAS,JUDUL,PANGOLAT"]⟩,
  ⟨0x1C00, "LEPCHA LETTER ", [
    "KA,KLA,KHA,GA,GLA,NGA,CA,CHA,JA,NYA,TA,THA,DA,NA,PA,PLA,PHA,FA,FLA,BA,BLA,MA,MLA,TSA",
    "TSHA,DZA,YA,RA,LA,HA,HLA,VA,SA,SHA,WA,A"]⟩,
  ⟨0x1C24, "LEPCHA SUBJOINED LETTER ", ["YA,RA"]⟩,
  ⟨0x1C26, "LEPCHA VOWEL SIGN ", ["AA,I,O,OO,U,UU,E"]⟩,
  ⟨0x1C2D, "LEPCHA CONSONANT SIGN ", ["K,M,L,N,P,R,T,NYIN-DO,KANG"]⟩,
  ⟨0x1C36, "LEPCHA SIGN ", ["RAN,NUKTA"]⟩,
  ⟨0x1C3B, "LEPCHA PUNCTUATION ", ["TA-ROL,NYET THYOOM TA-ROL,CER-WA,TSHOOK CER-WA,TSHOOK"]⟩,
  ⟨0x1C40, "LEPCHA DIGIT ", ["ZERO,ONE,TWO,THREE,FOUR,FIVE,SIX,SEVEN,EIGHT,NINE"]⟩,
  ⟨0x1C4D, "LEPCHA LETTER ", ["TTA,TTHA,DDA"]⟩,
  ⟨0x1C50, "OL CHIKI DIGIT ", ["ZERO,ONE,TWO,THREE,FOUR,FIVE,SIX,SEVEN,EIGHT,NINE"]⟩,
  ⟨0x1C5A, "OL CHIKI LETTER ", [
    "LA,AT,AG,ANG,AL,LAA,AAK,AAJ,AAM,AAW,LI,IS,IH,INY,IR,LU,UC,UD,UNN,UY,LE,EP,EDD,EN,ERR,LO",
    "OTT,OB,OV,OH"]⟩,
  ⟨0x1C78, "OL CHIKI ", [
    "MU TTUDDAG,GAAHLAA TTUDDAAG,MU-GAAHLAA TTUDDAAG,RELAA,PHAARKAA,AHAD,PUNCTUATION MUCAAD",
    "PUNCTUATION DOUBLE MUCAAD"]⟩,
  ⟨0x1C80, "CYRILLIC SMALL LETTER ", [
    "ROUNDED VE,LONG-LEGGED DE,NARROW O,WIDE ES,TALL TE,THREE-LEGGED TE,TALL HARD SIGN",
    "TALL YAT,UNBLENDED UK"]⟩,
  ⟨0x1C90, "GEORGIAN MTAVRULI CAPITAL LETTER ", [
    "AN,BAN,GAN,DON,EN,VIN,ZEN,TAN,IN,KAN,LAS,MAN,NAR,ON,PAR,ZHAR,RAE,SAN,TAR,UN,PHAR,KHAR",
    "GHAN,QAR,SHIN,CHIN,CAN,JIL,CIL,CHAR,XAN,JHAN,HAE,HE,HIE,WE,HAR,HOE,FI,YN,ELIFI",
    "TURNED GAN,AIN"]⟩,
  ⟨0x1CBD, "GEORGIAN MTAVRULI CAPITAL LETTER ", ["AEN,HARD SIGN,LABIAL SIGN"]⟩,
  ⟨0x1CC0, "SUNDANESE PUNCTUATION BINDU ", [
    "SURYA,PANGLONG,PURNAMA,CAKRA,LEU SATANGA,KA SATANGA,DA SATANGA,BA SATANGA"]⟩,
  ⟨0x1CD0, "VEDIC ", [
    "TONE KARSHANA,TONE SHARA,TONE PRENKHA,SIGN NIHSHVASA,SIGN YAJURVEDIC MIDLINE SVARITA"]⟩,
  ⟨0x1CD5, "VEDIC TONE ", [
    "YAJURVEDIC AGGRAVATED INDEPENDENT SVARITA,YAJURVEDIC INDEPENDENT SVARITA",
    "YAJURVEDIC KATHAKA INDEPENDENT SVARITA,CANDRA BELOW",
    "YAJURVEDIC KATHAKA INDEPENDENT SVARITA SCHROEDER,DOUBLE SVARITA,TRIPLE SVARITA",
    "KATHAKA ANUDATTA,DOT BELOW,TWO DOTS BELOW,THREE DOTS BELOW",
    "RIGVEDIC KASHMIRI INDEPENDENT SVARITA,ATHARVAVEDIC INDEPENDENT SVARITA"]⟩,
  ⟨0x1CE2, "VEDIC SIGN ", [
    "VISARGA SVARITA,VISARGA UDATTA,REVERSED VISARGA UDATTA,VISARGA ANUDATTA",
    "REVERSED VISARGA ANUDATTA,VISARGA UDATTA WITH TAIL,VISARGA ANUDATTA WITH TAIL",
    "ANUSVARA ANTARGOMUKHA,ANUSVARA BAHIRGOMUKHA,ANUSVARA VAMAGOMUKHA",
    "ANUSVARA VAMAGOMUKHA WITH TAIL,TIRYAK,HEXIFORM LONG ANUSVARA,LONG ANUSVARA",
    "RTHANG LONG ANUSVARA,ANUSVARA UBHAYATO MUKHA,ARDHAVISARGA,ROTATED ARDHAVISARGA"]⟩,
  ⟨0x1CF4, "VEDIC ", [
    "TONE CANDRA ABOVE,SIGN JIHVAMULIYA,SIGN UPADHMANIYA,SIGN ATIKRAMA,TONE RING ABOVE",
    "TONE DOUBLE RING ABOVE,SIGN DOUBLE ANUSVARA ANTARGOMUKHA"]⟩]

end Drift.Unicode.NameRun
