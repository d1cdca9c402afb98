import ArchivalBag.Encoding.CodePage
import ArchivalBag.Encoding.MultiByte
import ArchivalBag.Encoding.Utf16
import ArchivalBag.Encoding.Utf8
import ArchivalBag.Text.Blank

/-!
# Encodings of tag files

The encodings that a bag may declare, the labels by which it declares them, and how the bytes of a
file become a text. Bytes that are not well-formed are never replaced; they make the file unreadable.

* `TextEncoding.ofLabel?`: the encoding that a label stands for.
* `TextEncoding.decode?`: the text of well-formed bytes.
* `TextEncoding.decodeFile?`: the same after a byte order mark of the encoding, if there is one.
-/

namespace ArchivalBag

open Encoding

/-- The encodings. -/
inductive TextEncoding where
  | utf8
  | utf16 (order : Utf16.ByteOrder)
  | codePage (page : CodePage)
  | userDefined
  | shiftJis
  | eucJp
  | iso2022Jp
  | eucKr
  | gbk
  | gb18030
  | big5
  deriving DecidableEq, Repr

namespace TextEncoding

/-- The name of an encoding. -/
def name : TextEncoding → String
  | utf8 => "UTF-8"
  | utf16 .little => "UTF-16LE"
  | utf16 .big => "UTF-16BE"
  | codePage p => p.name
  | userDefined => "x-user-defined"
  | shiftJis => "Shift_JIS"
  | eucJp => "EUC-JP"
  | iso2022Jp => "ISO-2022-JP"
  | eucKr => "EUC-KR"
  | gbk => "GBK"
  | gb18030 => "gb18030"
  | big5 => "Big5"

/-- The labels of each encoding, in small letters. -/
def labels : List (TextEncoding × List String) := [
  (.utf8,
   ["unicode-1-1-utf-8", "unicode11utf8", "unicode20utf8", "utf-8", "utf8", "x-unicode20utf8"]),
  (.codePage .ibm866,
   ["866", "cp866", "csibm866", "ibm866"]),
  (.codePage .iso8859_2,
   ["csisolatin2", "iso-8859-2", "iso-ir-101", "iso8859-2", "iso88592", "iso_8859-2",
    "iso_8859-2:1987", "l2", "latin2"]),
  (.codePage .iso8859_3,
   ["csisolatin3", "iso-8859-3", "iso-ir-109", "iso8859-3", "iso88593", "iso_8859-3",
    "iso_8859-3:1988", "l3", "latin3"]),
  (.codePage .iso8859_4,
   ["csisolatin4", "iso-8859-4", "iso-ir-110", "iso8859-4", "iso88594", "iso_8859-4",
    "iso_8859-4:1988", "l4", "latin4"]),
  (.codePage .iso8859_5,
   ["csisolatincyrillic", "cyrillic", "iso-8859-5", "iso-ir-144", "iso8859-5", "iso88595",
    "iso_8859-5", "iso_8859-5:1988"]),
  (.codePage .iso8859_6,
   ["arabic", "asmo-708", "csiso88596e", "csiso88596i", "csisolatinarabic", "ecma-114",
    "iso-8859-6", "iso-8859-6-e", "iso-8859-6-i", "iso-ir-127", "iso8859-6", "iso88596",
    "iso_8859-6", "iso_8859-6:1987"]),
  (.codePage .iso8859_7,
   ["csisolatingreek", "ecma-118", "elot_928", "greek", "greek8", "iso-8859-7", "iso-ir-126",
    "iso8859-7", "iso88597", "iso_8859-7", "iso_8859-7:1987", "sun_eu_greek"]),
  (.codePage .iso8859_8,
   ["csiso88598e", "csisolatinhebrew", "hebrew", "iso-8859-8", "iso-8859-8-e", "iso-ir-138",
    "iso8859-8", "iso88598", "iso_8859-8", "iso_8859-8:1988", "visual"]),
  (.codePage .iso8859_8I,
   ["csiso88598i", "iso-8859-8-i", "logical"]),
  (.codePage .iso8859_10,
   ["csisolatin6", "iso-8859-10", "iso-ir-157", "iso8859-10", "iso885910", "l6", "latin6"]),
  (.codePage .iso8859_13,
   ["iso-8859-13", "iso8859-13", "iso885913"]),
  (.codePage .iso8859_14,
   ["iso-8859-14", "iso8859-14", "iso885914"]),
  (.codePage .iso8859_15,
   ["csisolatin9", "iso-8859-15", "iso8859-15", "iso885915", "iso_8859-15", "l9"]),
  (.codePage .iso8859_16,
   ["iso-8859-16"]),
  (.codePage .koi8R,
   ["cskoi8r", "koi", "koi8", "koi8-r", "koi8_r"]),
  (.codePage .koi8U,
   ["koi8-ru", "koi8-u"]),
  (.codePage .macintosh,
   ["csmacintosh", "mac", "macintosh", "x-mac-roman"]),
  (.codePage .windows874,
   ["dos-874", "iso-8859-11", "iso8859-11", "iso885911", "tis-620", "windows-874"]),
  (.codePage .windows1250,
   ["cp1250", "windows-1250", "x-cp1250"]),
  (.codePage .windows1251,
   ["cp1251", "windows-1251", "x-cp1251"]),
  (.codePage .windows1252,
   ["ansi_x3.4-1968", "ascii", "cp1252", "cp819", "csisolatin1", "ibm819", "iso-8859-1",
    "iso-ir-100", "iso8859-1", "iso88591", "iso_8859-1", "iso_8859-1:1987", "l1", "latin1",
    "us-ascii", "windows-1252", "x-cp1252"]),
  (.codePage .windows1253,
   ["cp1253", "windows-1253", "x-cp1253"]),
  (.codePage .windows1254,
   ["cp1254", "csisolatin5", "iso-8859-9", "iso-ir-148", "iso8859-9", "iso88599",
    "iso_8859-9", "iso_8859-9:1989", "l5", "latin5", "windows-1254", "x-cp1254"]),
  (.codePage .windows1255,
   ["cp1255", "windows-1255", "x-cp1255"]),
  (.codePage .windows1256,
   ["cp1256", "windows-1256", "x-cp1256"]),
  (.codePage .windows1257,
   ["cp1257", "windows-1257", "x-cp1257"]),
  (.codePage .windows1258,
   ["cp1258", "windows-1258", "x-cp1258"]),
  (.codePage .macCyrillic,
   ["x-mac-cyrillic", "x-mac-ukrainian"]),
  (.gbk,
   ["chinese", "csgb2312", "csiso58gb231280", "gb2312", "gb_2312", "gb_2312-80", "gbk",
    "iso-ir-58", "x-gbk"]),
  (.gb18030,
   ["gb18030"]),
  (.big5,
   ["big5", "big5-hkscs", "cn-big5", "csbig5", "x-x-big5"]),
  (.eucJp,
   ["cseucpkdfmtjapanese", "euc-jp", "x-euc-jp"]),
  (.iso2022Jp,
   ["csiso2022jp", "iso-2022-jp"]),
  (.shiftJis,
   ["csshiftjis", "ms932", "ms_kanji", "shift-jis", "shift_jis", "sjis", "windows-31j",
    "x-sjis"]),
  (.eucKr,
   ["cseuckr", "csksc56011987", "euc-kr", "iso-ir-149", "korean", "ks_c_5601-1987",
    "ks_c_5601-1989", "ksc5601", "ksc_5601", "windows-949"]),
  (.utf16 .big,
   ["unicodefffe", "utf-16be"]),
  (.utf16 .little,
   ["csunicode", "iso-10646-ucs-2", "ucs-2", "unicode", "unicodefeff", "utf-16", "utf-16le"]),
  (.userDefined,
   ["x-user-defined"])]

/-- The encoding that a label stands for. Blanks around the label and capitals do not count. -/
def ofLabel? (label : String) : Option TextEncoding :=
  let l := String.ofList ((Text.trim label.toList).map Char.toLower)
  (labels.find? fun e => e.2.contains l).map (·.1)

/-- Bytes without a meaning of their own: the upper half goes to characters for private use. -/
def decodeUserDefined (bytes : List UInt8) : List Char :=
  bytes.map fun b => if b.toNat < 128 then Char.ofNat b.toNat else Char.ofNat (0xF700 + b.toNat)

/-- The text of well-formed bytes. -/
def decode? : TextEncoding → List UInt8 → Option String
  | utf8, b => Utf8.decode? b
  | utf16 o, b => (Utf16.decode? o b).map String.ofList
  | codePage p, b => (p.decode? b).map String.ofList
  | userDefined, b => some (String.ofList (decodeUserDefined b))
  | shiftJis, b => (decodeShiftJis? b).map String.ofList
  | eucJp, b => (decodeEucJp? b).map String.ofList
  | iso2022Jp, b => (decodeIso2022Jp? b).map String.ofList
  | eucKr, b => (decodeEucKr? b).map String.ofList
  | gbk, b => (decodeGb18030? b).map String.ofList
  | gb18030, b => (decodeGb18030? b).map String.ofList
  | big5, b => (decodeBig5? b).map String.ofList

/-- The byte order mark of an encoding that has one. -/
def mark : TextEncoding → List UInt8
  | utf8 => [0xEF, 0xBB, 0xBF]
  | utf16 .little => [0xFF, 0xFE]
  | utf16 .big => [0xFE, 0xFF]
  | _ => []

/-- The bytes behind the mark, if they start with it. -/
def dropMark : List UInt8 → List UInt8 → Option (List UInt8)
  | [], b => some b
  | _ :: _, [] => none
  | m :: ms, b :: bs => if m = b then dropMark ms bs else none

/-- The bytes without one byte order mark of the encoding at their start. -/
def body (e : TextEncoding) (bytes : List UInt8) : List UInt8 :=
  (dropMark e.mark bytes).getD bytes

/-- The text of a file. -/
def decodeFile? (e : TextEncoding) (bytes : List UInt8) : Option String :=
  e.decode? (e.body bytes)

end TextEncoding

end ArchivalBag
