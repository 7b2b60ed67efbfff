import PlainReport.Text.Basic

/-!
# Encodings of one byte

In these encodings the bytes up to 127 are ASCII and each byte above has one
character of its own.  A table lists these 128 characters from byte 128 on, with
the replacement character for a byte that has none.
-/

namespace PlainReport.Encoding

/-- The characters of consecutive code points. -/
def span (first count : Nat) : Text := (List.range count).map fun n => Char.ofNat (first + n)

/-- Bytes that have no character. -/
def gap (count : Nat) : Text := List.replicate count '\ufffd'

/-- The upper half of windows-1251. -/
def windows1251 : Text :=
  "ЂЃ‚ѓ„…†‡€‰Љ‹ЊЌЋЏђ‘’“”•–—\u0098™љ›њќћџ" ++
    "\u00a0ЎўЈ¤Ґ¦§Ё©Є«¬\u00ad®Ї°±Ііґµ¶·ё№є»јЅѕї" ++
    "АБВГДЕЖЗИЙКЛМНОПРСТУФХЦЧШЩЪЫЬЭЮЯ" ++
    "абвгдежзийклмнопрстуфхцчшщъыьэюя"

/-- The upper half of windows-1252. -/
def windows1252 : Text :=
  "€\u0081‚ƒ„…†‡ˆ‰Š‹Œ\u008dŽ\u008f\u0090‘’“”•–—˜™š›œ\u009džŸ" ++
    "\u00a0¡¢£¤¥¦§¨©ª«¬\u00ad®¯°±²³´µ¶·¸¹º»¼½¾¿" ++
    "ÀÁÂÃÄÅÆÇÈÉÊËÌÍÎÏÐÑÒÓÔÕÖ×ØÙÚÛÜÝÞß" ++
    "àáâãäåæçèéêëìíîïðñòóôõö÷øùúûüýþÿ"

/-- The upper half of KOI8-R. -/
def koi8r : Text :=
  "─│┌┐└┘├┤┬┴┼▀▄█▌▐░▒▓⌠■∙√≈≤≥\u00a0⌡°²·÷" ++
    "═║╒ё╓╔╕╖╗╘╙╚╛╜╝╞╟╠╡Ё╢╣╤╥╦╧╨╩╪╫╬©" ++
    "юабцдефгхийклмнопярстужвьызшэщчъ" ++
    "ЮАБЦДЕФГХИЙКЛМНОПЯРСТУЖВЬЫЗШЭЩЧЪ"

/-- The upper half of IBM866. -/
def ibm866 : Text :=
  "АБВГДЕЖЗИЙКЛМНОПРСТУФХЦЧШЩЪЫЬЭЮЯ" ++
    "абвгдежзийклмноп░▒▓│┤╡╢╖╕╣║╗╝╜╛┐" ++
    "└┴┬├─┼╞╟╚╔╩╦╠═╬╧╨╤╥╙╘╒╓╫╪┘┌█▄▌▐▀" ++
    "рстуфхцчшщъыьэюяЁёЄєЇїЎў°∙·√№¤■\u00a0"

/-- The upper half of ISO-8859-2. -/
def latin2 : Text :=
  span 0x80 33 ++ "Ą˘Ł¤ĽŚ§¨ŠŞŤŹ\u00adŽŻ°ą˛ł´ľśˇ¸šşťź˝žżŔ" ++
    "ÁÂĂÄĹĆÇČÉĘËĚÍÎĎĐŃŇÓÔŐÖ×ŘŮÚŰÜÝŢßŕ" ++ "áâăäĺćçčéęëěíîďđńňóôőö÷řůúűüýţ˙"

/-- The upper half of ISO-8859-3. -/
def latin3 : Text :=
  span 0x80 33 ++ "Ħ˘£¤\ufffdĤ§¨İŞĞĴ\u00ad\ufffdŻ°ħ²³´µĥ·¸ışğĵ½\ufffdżÀ" ++
    "ÁÂ\ufffdÄĊĈÇÈÉÊËÌÍÎÏ\ufffdÑÒÓÔĠÖ×ĜÙÚÛÜŬŜßà" ++
    "áâ\ufffdäċĉçèéêëìíîï\ufffdñòóôġö÷ĝùúûüŭŝ˙"

/-- The upper half of ISO-8859-4. -/
def latin4 : Text :=
  span 0x80 33 ++ "ĄĸŖ¤ĨĻ§¨ŠĒĢŦ\u00adŽ¯°ą˛ŗ´ĩļˇ¸šēģŧŊžŋĀ" ++
    "ÁÂÃÄÅÆĮČÉĘËĖÍÎĪĐŅŌĶÔÕÖ×ØŲÚÛÜŨŪßā" ++ "áâãäåæįčéęëėíîīđņōķôõö÷øųúûüũū˙"

/-- The upper half of ISO-8859-5. -/
def isoCyrillic : Text :=
  span 0x80 33 ++ "ЁЂЃЄЅІЇЈЉЊЋЌ\u00adЎЏАБВГДЕЖЗИЙКЛМНОПР" ++
    "СТУФХЦЧШЩЪЫЬЭЮЯабвгдежзийклмнопр" ++ "стуфхцчшщъыьэюя№ёђѓєѕіїјљњћќ§ўџ"

/-- The upper half of ISO-8859-6. -/
def isoArabic : Text :=
  span 0x80 33 ++ gap 3 ++ "¤" ++ gap 7 ++ "،\u00ad" ++ gap 13 ++ "\u061b" ++ gap 3 ++
    "\u061f\ufffd" ++ span 0x621 26 ++ gap 5 ++ span 0x640 19 ++ gap 13

/-- The upper half of ISO-8859-7. -/
def isoGreek : Text :=
  span 0x80 33 ++ "‘’£€₯¦§¨©ͺ«¬\u00ad\ufffd―°±²³΄΅Ά·ΈΉΊ»Ό½ΎΏΐ" ++
    "ΑΒΓΔΕΖΗΘΙΚΛΜΝΞΟΠΡ\ufffdΣΤΥΦΧΨΩΪΫάέήίΰ" ++ "αβγδεζηθικλμνξοπρςστυφχψωϊϋόύώ\ufffd"

/-- The upper half of ISO-8859-8. -/
def isoHebrew : Text :=
  span 0x80 33 ++ "\ufffd¢£¤¥¦§¨©×«¬\u00ad®¯°±²³´µ¶·¸¹÷»¼½¾" ++ gap 32 ++ "‗" ++
    span 0x5d0 27 ++ gap 2 ++ "\u200e\u200f\ufffd"

/-- The upper half of ISO-8859-10. -/
def latin6 : Text :=
  span 0x80 33 ++ "ĄĒĢĪĨĶ§ĻĐŠŦŽ\u00adŪŊ°ąēģīĩķ·ļđšŧž―ūŋĀ" ++
    "ÁÂÃÄÅÆĮČÉĘËĖÍÎÏÐŅŌÓÔÕÖŨØŲÚÛÜÝÞßā" ++ "áâãäåæįčéęëėíîïðņōóôõöũøųúûüýþĸ"

/-- The upper half of ISO-8859-13. -/
def latin7 : Text :=
  span 0x80 33 ++ "”¢£¤„¦§Ø©Ŗ«¬\u00ad®Æ°±²³“µ¶·ø¹ŗ»¼½¾æĄ" ++
    "ĮĀĆÄÅĘĒČÉŹĖĢĶĪĻŠŃŅÓŌÕÖ×ŲŁŚŪÜŻŽßą" ++ "įāćäåęēčéźėģķīļšńņóōõö÷ųłśūüżž’"

/-- The upper half of ISO-8859-14. -/
def latin8 : Text :=
  span 0x80 33 ++ "Ḃḃ£ĊċḊ§Ẁ©ẂḋỲ\u00ad®ŸḞḟĠġṀṁ¶ṖẁṗẃṠỳẄẅṡÀ" ++
    "ÁÂÃÄÅÆÇÈÉÊËÌÍÎÏŴÑÒÓÔÕÖṪØÙÚÛÜÝŶßà" ++ "áâãäåæçèéêëìíîïŵñòóôõöṫøùúûüýŷÿ"

/-- The upper half of ISO-8859-15. -/
def latin9 : Text :=
  span 0x80 36 ++ "€¥Š§š©ª«¬\u00ad®¯°±²³Žµ¶·ž¹º»ŒœŸ¿ÀÁÂÃ" ++
    "ÄÅÆÇÈÉÊËÌÍÎÏÐÑÒÓÔÕÖ×ØÙÚÛÜÝÞßàáâã" ++ "äåæçèéêëìíîïðñòóôõö÷øùúûüýþÿ"

/-- The upper half of ISO-8859-16. -/
def latin10 : Text :=
  span 0x80 33 ++ "ĄąŁ€„Š§š©Ș«Ź\u00adźŻ°±ČłŽ”¶·žčș»ŒœŸżÀ" ++
    "ÁÂĂÄĆÆÇÈÉÊËÌÍÎÏĐŃÒÓÔŐÖŚŰÙÚÛÜĘȚßà" ++ "áâăäćæçèéêëìíîïđńòóôőöśűùúûüęțÿ"

/-- The upper half of KOI8-U. -/
def koi8u : Text :=
  "─│┌┐└┘├┤┬┴┼▀▄█▌▐░▒▓⌠■∙√≈≤≥\u00a0⌡°²·÷" ++ "═║╒ёє╔ії╗╘╙╚╛ґў╞╟╠╡ЁЄ╣ІЇ╦╧╨╩╪ҐЎ©" ++
    "юабцдефгхийклмнопярстужвьызшэщчъ" ++ "ЮАБЦДЕФГХИЙКЛМНОПЯРСТУЖВЬЫЗШЭЩЧЪ"

/-- The upper half of macintosh. -/
def macintosh : Text :=
  "ÄÅÇÉÑÖÜáàâäãåçéèêëíìîïñóòôöõúùûü" ++ "†°¢£§•¶ß®©™´¨≠ÆØ∞±≤≥¥µ∂∑∏π∫ªºΩæø" ++
    "¿¡¬√ƒ≈∆«»…\u00a0ÀÃÕŒœ–—“”‘’÷◊ÿŸ⁄€‹›ﬁﬂ" ++ "‡·‚„‰ÂÊÁËÈÍÎÏÌÓÔ\uf8ffÒÚÛÙıˆ˜¯˘˙˚¸˝˛ˇ"

/-- The upper half of windows-874. -/
def windows874 : Text :=
  "€\u0081\u0082\u0083\u0084…" ++ span 0x86 11 ++ "‘’“”•–—" ++ span 0x98 9 ++
    "กขฃคฅฆงจฉชซฌญฎฏฐฑฒณดตถทธนบปผฝพฟภ" ++ "มยรฤลฦวศษส" ++ span 0xe2b 16 ++ gap 4 ++
    "฿เแโใไๅๆ\u0e47\u0e48\u0e49\u0e4a\u0e4b\u0e4c\u0e4d\u0e4e๏๐๑๒๓๔๕๖๗๘๙๚๛" ++ gap 4

/-- The upper half of windows-1250. -/
def windows1250 : Text :=
  "€\u0081‚\u0083„…†‡\u0088‰Š‹ŚŤŽŹ\u0090‘’“”•–—\u0098™š›śťžź" ++
    "\u00a0ˇ˘Ł¤Ą¦§¨©Ş«¬\u00ad®Ż°±˛ł´µ¶·¸ąş»Ľ˝ľż" ++ "ŔÁÂĂÄĹĆÇČÉĘËĚÍÎĎĐŃŇÓÔŐÖ×ŘŮÚŰÜÝŢß" ++
    "ŕáâăäĺćçčéęëěíîďđńňóôőö÷řůúűüýţ˙"

/-- The upper half of windows-1253. -/
def windows1253 : Text :=
  "€\u0081‚ƒ„…†‡\u0088‰\u008a‹\u008c\u008d\u008e\u008f\u0090‘’“”•–—\u0098™\u009a›\u009c" ++
    "\u009d\u009e\u009f\u00a0΅Ά£¤¥¦§¨©\ufffd«¬\u00ad®―°±²³΄µ¶·ΈΉΊ»Ό" ++
    "½ΎΏΐΑΒΓΔΕΖΗΘΙΚΛΜΝΞΟΠΡ\ufffdΣΤΥΦΧΨΩΪΫά" ++ "έήίΰαβγδεζηθικλμνξοπρςστυφχψωϊϋό" ++
    "ύώ\ufffd"

/-- The upper half of windows-1254. -/
def windows1254 : Text :=
  "€\u0081‚ƒ„…†‡ˆ‰Š‹Œ\u008d\u008e\u008f\u0090‘’“”•–—˜™š›œ\u009d\u009eŸ" ++
    "\u00a0¡¢£¤¥¦§¨©ª«¬\u00ad®¯°±²³´µ¶·¸¹º»¼½¾¿" ++ "ÀÁÂÃÄÅÆÇÈÉÊËÌÍÎÏĞÑÒÓÔÕÖ×ØÙÚÛÜİŞß" ++
    "àáâãäåæçèéêëìíîïğñòóôõö÷øùúûüışÿ"

/-- The upper half of windows-1255. -/
def windows1255 : Text :=
  "€\u0081‚ƒ„…†‡ˆ‰\u008a‹\u008c\u008d\u008e\u008f\u0090‘’“”•–—˜™\u009a›" ++ span 0x9c 8 ++
    "₪¥¦§¨©×«¬\u00ad®¯°±²³´µ¶·¸¹÷»¼½¾¿" ++ span 0x5b0 20 ++
    "\u05f0\u05f1\u05f2\u05f3\u05f4" ++ gap 7 ++ span 0x5d0 27 ++ gap 2 ++
    "\u200e\u200f\ufffd"

/-- The upper half of windows-1256. -/
def windows1256 : Text :=
  "€\u067e‚ƒ„…†‡ˆ‰\u0679‹Œ\u0686\u0698\u0688\u06af‘’“”•–—\u06a9™\u0691›œ\u200c\u200d" ++
    "\u06ba\u00a0،¢£¤¥¦§¨©\u06be«¬\u00ad®¯°±²³´µ¶·¸¹\u061b»¼½¾" ++ "\u061f\u06c1" ++
    span 0x621 22 ++
    "×\u0637\u0638\u0639\u063a\u0640\u0641\u0642\u0643à\u0644â\u0645\u0646\u0647\u0648çèé" ++
    "êë\u0649\u064aîï\u064b\u064c\u064d\u064eô\u064f\u0650÷\u0651ù\u0652ûü\u200e\u200f" ++
    "\u06d2"

/-- The upper half of windows-1257. -/
def windows1257 : Text :=
  "€\u0081‚\u0083„…†‡\u0088‰\u008a‹\u008c¨ˇ¸\u0090‘’“”•–—\u0098™\u009a›\u009c¯˛\u009f" ++
    "\u00a0\ufffd¢£¤\ufffd¦§Ø©Ŗ«¬\u00ad®Æ°±²³´µ¶·ø¹ŗ»¼½¾æ" ++
    "ĄĮĀĆÄÅĘĒČÉŹĖĢĶĪĻŠŃŅÓŌÕÖ×ŲŁŚŪÜŻŽß" ++ "ąįāćäåęēčéźėģķīļšńņóōõö÷ųłśūüżž˙"

/-- The upper half of windows-1258. -/
def windows1258 : Text :=
  "€\u0081‚ƒ„…†‡ˆ‰\u008a‹Œ\u008d\u008e\u008f\u0090‘’“”•–—˜™\u009a›œ\u009d\u009eŸ" ++
    "\u00a0¡¢£¤¥¦§¨©ª«¬\u00ad®¯°±²³´µ¶·¸¹º»¼½¾¿" ++
    "ÀÁÂĂÄÅÆÇÈÉÊË\u0300ÍÎÏĐÑ\u0309ÓÔƠÖ×ØÙÚÛÜƯ\u0303ß" ++
    "àáâăäåæçèéêë\u0301íîïđñ\u0323óôơö÷øùúûüư₫ÿ"

/-- The upper half of x-mac-cyrillic. -/
def macCyrillic : Text :=
  "АБВГДЕЖЗИЙКЛМНОПРСТУФХЦЧШЩЪЫЬЭЮЯ" ++ "†°Ґ£§•¶І®©™Ђђ≠Ѓѓ∞±≤≥іµґЈЄєЇїЉљЊњ" ++
    "јЅ¬√ƒ≈∆«»…\u00a0ЋћЌќѕ–—“”‘’÷„ЎўЏџ№Ёёя" ++ "абвгдежзийклмнопрстуфхцчшщъыьэю€"

/-- The upper half of x-user-defined. -/
def userDefined : Text := span 0xf780 128

/-- The character of a byte, if there is one. -/
def charOfByte? (upper : Text) (b : UInt8) : Option Char :=
  if b.toNat < 0x80 then some (Char.ofNat b.toNat)
  else upper[b.toNat - 0x80]?.filter (· ≠ '\ufffd')

end PlainReport.Encoding
