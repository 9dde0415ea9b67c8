import TemplateTree.Text.Digit

/-!
# Character references

Names and numbers that stand for characters in markup, as in `&lt;` and `&#60;`. Some old names count
even without their semicolon, and then also at the start of a longer word.
-/

namespace TemplateTree.Text

/-- The names that need no semicolon. -/
def looseNames : List (String × Nat) := [
  ("AElig", 198), ("AMP", 38), ("Aacute", 193), ("Acirc", 194), ("Agrave", 192), ("Aring", 197),
  ("Atilde", 195), ("Auml", 196), ("COPY", 169), ("Ccedil", 199), ("ETH", 208), ("Eacute", 201),
  ("Ecirc", 202), ("Egrave", 200), ("Euml", 203), ("GT", 62), ("Iacute", 205), ("Icirc", 206),
  ("Igrave", 204), ("Iuml", 207), ("LT", 60), ("Ntilde", 209), ("Oacute", 211), ("Ocirc", 212),
  ("Ograve", 210), ("Oslash", 216), ("Otilde", 213), ("Ouml", 214), ("QUOT", 34), ("REG", 174),
  ("THORN", 222), ("Uacute", 218), ("Ucirc", 219), ("Ugrave", 217), ("Uuml", 220),
  ("Yacute", 221), ("aacute", 225), ("acirc", 226), ("acute", 180), ("aelig", 230),
  ("agrave", 224), ("amp", 38), ("aring", 229), ("atilde", 227), ("auml", 228), ("brvbar", 166),
  ("ccedil", 231), ("cedil", 184), ("cent", 162), ("copy", 169), ("curren", 164), ("deg", 176),
  ("divide", 247), ("eacute", 233), ("ecirc", 234), ("egrave", 232), ("eth", 240), ("euml", 235),
  ("frac12", 189), ("frac14", 188), ("frac34", 190), ("gt", 62), ("iacute", 237), ("icirc", 238),
  ("iexcl", 161), ("igrave", 236), ("iquest", 191), ("iuml", 239), ("laquo", 171), ("lt", 60),
  ("macr", 175), ("micro", 181), ("middot", 183), ("nbsp", 160), ("not", 172), ("ntilde", 241),
  ("oacute", 243), ("ocirc", 244), ("ograve", 242), ("ordf", 170), ("ordm", 186), ("oslash", 248),
  ("otilde", 245), ("ouml", 246), ("para", 182), ("plusmn", 177), ("pound", 163), ("quot", 34),
  ("raquo", 187), ("reg", 174), ("sect", 167), ("shy", 173), ("sup1", 185), ("sup2", 178),
  ("sup3", 179), ("szlig", 223), ("thorn", 254), ("times", 215), ("uacute", 250), ("ucirc", 251),
  ("ugrave", 249), ("uml", 168), ("uuml", 252), ("yacute", 253), ("yen", 165), ("yuml", 255)]

/-- The names that need their semicolon. -/
def strictNames : List (String × Nat) := [
  ("Alpha", 913), ("Beta", 914), ("Chi", 935), ("Dagger", 8225), ("Delta", 916), ("Epsilon", 917),
  ("Eta", 919), ("Gamma", 915), ("Iota", 921), ("Kappa", 922), ("Lambda", 923), ("Mu", 924),
  ("Nu", 925), ("OElig", 338), ("Omega", 937), ("Omicron", 927), ("Phi", 934), ("Pi", 928),
  ("Prime", 8243), ("Psi", 936), ("Rho", 929), ("Scaron", 352), ("Sigma", 931), ("Tau", 932),
  ("Theta", 920), ("Upsilon", 933), ("Xi", 926), ("Yuml", 376), ("Zeta", 918), ("alefsym", 8501),
  ("alpha", 945), ("and", 8743), ("ang", 8736), ("apos", 39), ("asymp", 8776), ("bdquo", 8222),
  ("beta", 946), ("bull", 8226), ("cap", 8745), ("chi", 967), ("circ", 710), ("clubs", 9827),
  ("cong", 8773), ("crarr", 8629), ("cup", 8746), ("dArr", 8659), ("dagger", 8224),
  ("darr", 8595), ("delta", 948), ("diams", 9830), ("empty", 8709), ("emsp", 8195),
  ("ensp", 8194), ("epsilon", 949), ("equiv", 8801), ("eta", 951), ("euro", 8364),
  ("exist", 8707), ("fnof", 402), ("forall", 8704), ("frasl", 8260), ("gamma", 947), ("ge", 8805),
  ("hArr", 8660), ("harr", 8596), ("hearts", 9829), ("hellip", 8230), ("image", 8465),
  ("infin", 8734), ("int", 8747), ("iota", 953), ("isin", 8712), ("kappa", 954), ("lArr", 8656),
  ("lambda", 955), ("lang", 9001), ("larr", 8592), ("lceil", 8968), ("ldquo", 8220), ("le", 8804),
  ("lfloor", 8970), ("lowast", 8727), ("loz", 9674), ("lrm", 8206), ("lsaquo", 8249),
  ("lsquo", 8216), ("mdash", 8212), ("minus", 8722), ("mu", 956), ("nabla", 8711),
  ("ndash", 8211), ("ne", 8800), ("ni", 8715), ("notin", 8713), ("nsub", 8836), ("nu", 957),
  ("oelig", 339), ("oline", 8254), ("omega", 969), ("omicron", 959), ("oplus", 8853),
  ("or", 8744), ("otimes", 8855), ("part", 8706), ("permil", 8240), ("perp", 8869), ("phi", 966),
  ("pi", 960), ("piv", 982), ("prime", 8242), ("prod", 8719), ("prop", 8733), ("psi", 968),
  ("rArr", 8658), ("radic", 8730), ("rang", 9002), ("rarr", 8594), ("rceil", 8969),
  ("rdquo", 8221), ("real", 8476), ("rfloor", 8971), ("rho", 961), ("rlm", 8207),
  ("rsaquo", 8250), ("rsquo", 8217), ("sbquo", 8218), ("scaron", 353), ("sdot", 8901),
  ("sigma", 963), ("sigmaf", 962), ("sim", 8764), ("spades", 9824), ("sub", 8834), ("sube", 8838),
  ("sum", 8721), ("sup", 8835), ("supe", 8839), ("tau", 964), ("there4", 8756), ("theta", 952),
  ("thetasym", 977), ("thinsp", 8201), ("tilde", 732), ("trade", 8482), ("uArr", 8657),
  ("uarr", 8593), ("upsih", 978), ("upsilon", 965), ("weierp", 8472), ("xi", 958), ("zeta", 950),
  ("zwj", 8205), ("zwnj", 8204)]

/-- What the numbers from 0x80 to 0x9F stand for. -/
def oldNumbers : List Nat := [
  8364, 129, 8218, 402, 8222, 8230, 8224, 8225, 710, 8240, 352, 8249, 338, 141, 381, 143,
  144, 8216, 8217, 8220, 8221, 8226, 8211, 8212, 732, 8482, 353, 8250, 339, 157, 382, 376]

/-- The numbers that stand for no character. -/
def isNoCharacter (n : Nat) : Bool :=
  (0x1 ≤ n && n ≤ 0x8) || (0xE ≤ n && n ≤ 0x1F) || (0x7F ≤ n && n ≤ 0x9F)
    || (0xFDD0 ≤ n && n ≤ 0xFDEF) || n == 0xB || (0xFFFE ≤ n && 0xFFFE ≤ n % 0x10000)

/-- The text that a number stands for. -/
def numbered (n : Nat) : List Char :=
  if 0x80 ≤ n && n ≤ 0x9F then [Char.ofNat (oldNumbers[n - 0x80]?.getD n)]
  else if n == 0xD then ['\r']
  else if n == 0 || (0xD800 ≤ n && n ≤ 0xDFFF) || 0x10FFFF < n then ['\uFFFD']
  else if isNoCharacter n then []
  else [Char.ofNat n]

/-- The longest name without a semicolon at the start of a text: its character and its length. -/
def longestName? (s : List Char) : Nat → Option (Nat × Nat)
  | 0 => none
  | n + 1 =>
    match looseNames.lookup (String.ofList (s.take (n + 1))) with
    | some c => some (c, n + 1)
    | none => longestName? s n

/-- The characters of a name: everything but white space and the marks of markup. -/
def isReferenceChar (c : Char) : Bool :=
  !(['\t', '\n', '\x0c', ' ', '<', '&', '#', ';'].contains c)

/-- A named reference behind its ampersand: its text, and how many characters it takes. -/
def namedReference (s : List Char) : List Char × Nat :=
  let name := (s.takeWhile isReferenceChar).take 32
  let closed := (s.drop name.length).head? == some ';'
  let taken := name.length + (if closed then 1 else 0)
  let word := String.ofList name
  let whole := if closed then looseNames.lookup word <|> strictNames.lookup word
    else looseNames.lookup word
  match whole with
  | some c => ([Char.ofNat c], taken)
  | none =>
    match longestName? name name.length with
    | some (c, n) => (Char.ofNat c :: (s.take taken).drop n, taken)
    | none => ('&' :: s.take taken, taken)

/-- A numbered reference behind its mark: its text, and how many characters it takes. -/
def numberReference? (base : Nat) (isDigit : Char → Bool) (s : List Char) :
    Option (List Char × Nat) :=
  let ds := s.takeWhile isDigit
  if ds.isEmpty then none
  else
    let closed := (s.drop ds.length).head? == some ';'
    some (numbered (baseValue base ds), ds.length + (if closed then 1 else 0))

/-- Whether a character is a digit to base 16. -/
def isHexDigit (c : Char) : Bool :=
  (baseDigit? 16 c).isSome

/-- The reference behind an ampersand: its text, and how many characters it takes. -/
def reference (s : List Char) : List Char × Nat :=
  match s with
  | '#' :: 'x' :: rest | '#' :: 'X' :: rest =>
    match numberReference? 16 isHexDigit rest with
    | some (t, n) => (t, n + 2)
    | none => (['&'], 0)
  | '#' :: rest =>
    match numberReference? 10 Char.isDigit rest with
    | some (t, n) => (t, n + 1)
    | none => (['&'], 0)
  | s => namedReference s

/-- A text with its references replaced; `skip` characters have been dealt with. -/
def unescapeFrom : Nat → List Char → List Char
  | _, [] => []
  | skip + 1, _ :: rest => unescapeFrom skip rest
  | 0, c :: rest =>
    if c == '&' then
      let (t, n) := reference rest
      t ++ unescapeFrom n rest
    else c :: unescapeFrom 0 rest

/-- A text with its references replaced. -/
def unescapeHtml (s : List Char) : List Char :=
  unescapeFrom 0 s

end TemplateTree.Text
