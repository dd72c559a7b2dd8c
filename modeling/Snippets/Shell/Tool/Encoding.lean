import Snippets.Shell.Tool.Digest

/-!
# Octets as letters

Encodings of octets in an alphabet, each letter of which stands for a number of bits, and
their opposites.
-/

namespace Snippets
namespace Shell
namespace Encoding

/-- The letters of an encoding and how they are grouped. -/
structure Alphabet where
  /-- The letters, of which each stands for its place. -/
  letters : List Char
  /-- The number of bits that a letter stands for. -/
  bits : Nat
  /-- The number of letters of a group. -/
  group : Nat
  /-- Whether groups are filled up with signs. -/
  isFilled : Bool
  /-- Whether the bit that counts least comes first. -/
  isReversed : Bool

/-- The capital letters, the small ones and the digits. -/
def letterDigits : List Char :=
  "ABCDEFGHIJKLMNOPQRSTUVWXYZabcdefghijklmnopqrstuvwxyz0123456789".toList

/-- The alphabet of 64 letters. -/
def base64 : Alphabet := ⟨letterDigits ++ ['+', '/'], 6, 4, true, false⟩

/-- The alphabet of 64 letters that may be part of addresses. -/
def base64url : Alphabet := ⟨letterDigits ++ ['-', '_'], 6, 4, true, false⟩

/-- The alphabet of 32 letters. -/
def base32 : Alphabet := ⟨"ABCDEFGHIJKLMNOPQRSTUVWXYZ234567".toList, 5, 8, true, false⟩

/-- The alphabet of 32 letters whose order is that of the numbers. -/
def base32hex : Alphabet := ⟨"0123456789ABCDEFGHIJKLMNOPQRSTUV".toList, 5, 8, true, false⟩

/-- The alphabet of sixteen digits. -/
def base16 : Alphabet := ⟨"0123456789ABCDEF".toList, 4, 2, false, false⟩

/-- The alphabet of two digits. -/
def base2 (isReversed : Bool) : Alphabet := ⟨['0', '1'], 1, 8, false, isReversed⟩

/-- The number of octets that a group stands for. -/
def Alphabet.octets (alphabet : Alphabet) : Nat :=
  alphabet.bits * alphabet.group / 8

/-- The letters for the octets of a group, which may be short. -/
def Alphabet.encodeGroup (alphabet : Alphabet) (octets : List Char) : List Char :=
  let value := Digest.bigEndian octets * Nat.pow 256 (alphabet.octets - octets.length)
  let used := (octets.length * 8 + alphabet.bits - 1) / alphabet.bits
  let base := Nat.pow 2 alphabet.bits
  let letters := (List.range alphabet.group).map fun index =>
    if index < used then
      let place := if alphabet.isReversed then index else alphabet.group - 1 - index
      (alphabet.letters[value / Nat.pow base place % base]?).getD '='
    else '='
  if alphabet.isFilled then letters else letters.take used

/-- The letters for octets. -/
def Alphabet.encode (alphabet : Alphabet) (octets : List Char) : List Char :=
  (Digest.chunks alphabet.octets (octets.length + 1) octets).flatMap alphabet.encodeGroup

/-- The octets for the letters of a group, and whether all is right with it.  What has been
read before something wrong still counts. -/
def Alphabet.decodeGroup (alphabet : Alphabet) (letters : List Char) : List Char × Bool :=
  let values := letters.map fun letter => alphabet.letters.idxOf? letter
  let good := (values.takeWhile Option.isSome).filterMap id
  let base := Nat.pow 2 alphabet.bits
  let count := good.length * alphabet.bits / 8
  let value := good.zipIdx.foldl
    (fun value entry =>
      let place := if alphabet.isReversed then entry.2 else alphabet.group - 1 - entry.2
      value + entry.1 * Nat.pow base place)
    0
  let octets := (Digest.toBigEndian alphabet.octets value).take count
  let fill := letters.drop good.length
  let used := (count * 8 + alphabet.bits - 1) / alphabet.bits
  let isRight := letters.length = alphabet.group && fill.all (· = '=') &&
    (fill.isEmpty || (alphabet.isFilled && 0 < count && used = good.length))
  (octets, isRight)

/-- The octets for letters, and whether all is right with them. -/
def Alphabet.decode (alphabet : Alphabet) : Nat → List Char → List (List Char) →
    List Char × Bool
  | 0, _, found => (found.reverse.flatten, true)
  | fuel + 1, letters, found =>
      if letters.isEmpty then (found.reverse.flatten, true)
      else
        let (octets, isRight) := alphabet.decodeGroup (letters.take alphabet.group)
        if isRight then
          alphabet.decode fuel (letters.drop alphabet.group) (octets :: found)
        else
          let octets := if alphabet.bits = 6 then octets else []
          ((octets :: found).reverse.flatten, false)

/-- A text cut into lines of a width. -/
def wrap (width : Nat) (text : List Char) : List Char :=
  if width = 0 then text
  else (Digest.chunks width (text.length + 1) text).flatMap fun line => line ++ ['\n']

/-- A program that encodes and decodes. -/
def coding (forms : List String) (alphabet? : Options → Option Alphabet) : Tool :=
  withOptions (["d decode", "D", "i ignore-garbage", "w=wrap"] ++ forms) fun invocation options =>
    match alphabet? options with
    | none => invocation.misused "missing encoding type" 1
    | some alphabet =>
        invocation.extra 1 options <|
        match (options.value? 'w').map toNat? with
        | some none =>
            invocation.fail ("invalid wrap size: " ++ curly ((options.value? 'w').getD [])) 1
        | width =>
            let (contents, outcome) := invocation.readAll options.operands
            if outcome.status ≠ 0 then outcome
            else
              let text := contents.flatMap Prod.snd
              if options.has 'd' ∨ options.has 'D' then
                let letters := text.filter fun octet =>
                  octet != '\n' && (!options.has 'i' || alphabet.letters.contains octet ||
                    octet = '=')
                let (octets, isRight) := alphabet.decode (letters.length + 1) letters []
                let outcome := outcome.say octets
                if isRight then outcome
                else outcome.complain (invocation.complaint "invalid input".toList) 1
              else outcome.say (wrap ((width.bind id).getD 76) (alphabet.encode text))

/-- The alphabet that the options name. -/
def chosen (options : Options) : Option Alphabet :=
  match options.last? "abcefgh" with
  | some 'a' => some base64
  | some 'b' => some base64url
  | some 'c' => some base32
  | some 'e' => some base32hex
  | some 'f' => some base16
  | some 'g' => some (base2 false)
  | some 'h' => some (base2 true)
  | _ => none

/-- The programs that encode and decode. -/
def programs : List (String × Tool) :=
  [("base64", coding [] fun _ => some base64), ("base32", coding [] fun _ => some base32),
   ("basenc", coding ["a-base64", "b-base64url", "c-base32", "e-base32hex", "f-base16",
     "g-base2msbf", "h-base2lsbf"] chosen)]

/-- How the octets of a text are shown. -/
structure Format where
  /-- The number of octets that are shown together. -/
  size : Nat
  /-- The least width of what is shown. -/
  width : Nat
  /-- What is shown for octets. -/
  shown : List Char → List Char
  /-- Whether the octets also stand at the end of the line. -/
  hasText : Bool

/-- The names of the characters below the space, and of the space. -/
def controlNames : List String :=
  ["nul", "soh", "stx", "etx", "eot", "enq", "ack", "bel", "bs", "ht", "nl", "vt", "ff", "cr",
   "so", "si", "dle", "dc1", "dc2", "dc3", "dc4", "nak", "syn", "etb", "can", "em", "sub", "esc",
   "fs", "gs", "rs", "us", "sp"]

/-- An octet as a character or an escape. -/
def visible (octet : Char) : List Char :=
  let names : List (Char × String) :=
    [('\x00', "\\0"), ('\x07', "\\a"), ('\x08', "\\b"), ('\t', "\\t"), ('\n', "\\n"),
     ('\x0b', "\\v"), ('\x0c', "\\f"), ('\r', "\\r")]
  match names.lookup octet with
  | some name => name.toList
  | none =>
      if 32 ≤ octet.toNat ∧ octet.toNat < 127 then [octet]
      else padLeft 3 '0' (Nat.toDigits 8 octet.toNat)

/-- The number of octets that the end of a format names. -/
def sizeOf? (kind : Char) (text : List Char) : Option (Nat × List Char) :=
  let digits := text.takeWhile Char.isDigit
  match toNat? digits, text with
  | some size, _ =>
      if [1, 2, 4, 8].contains size then some (size, text.drop digits.length) else none
  | none, 'C' :: rest => some (1, rest)
  | none, 'S' :: rest => some (2, rest)
  | none, 'I' :: rest => some (4, rest)
  | none, 'L' :: rest => some (8, rest)
  | none, rest => some (if kind = 'f' then 8 else 4, rest)

/-- The format that letters name, and what follows them. -/
def format? (isBig : Bool) (text : List Char) : Option (Format × List Char) :=
  let numberOf := if isBig then Digest.bigEndian else Digest.littleEndian
  let named := fun (rest : List Char) (size width : Nat) (shown : List Char → List Char) =>
    match rest with
    | 'z' :: rest => some (⟨size, width, shown, true⟩, rest)
    | rest => some (⟨size, width, shown, false⟩, rest)
  match text with
  | 'a' :: rest =>
      named rest 1 3 fun octets =>
        let code := (octets.head?.map Char.toNat).getD 0 % 128
        match controlNames[code]? with
        | some name => name.toList
        | none => if code = 127 then "del".toList else [Char.ofNat code]
  | 'c' :: rest => named rest 1 3 fun octets => (octets.head?.map visible).getD []
  | kind :: rest =>
      if !(['d', 'o', 'u', 'x'].contains kind) then none
      else
        (sizeOf? kind rest).bind fun (size, rest) =>
          let widths := match kind with
            | 'd' => (4, 6, 11, 20)
            | 'o' => (3, 6, 11, 22)
            | 'u' => (3, 5, 10, 20)
            | _ => (2, 4, 8, 16)
          let width := match size with
            | 1 => widths.1
            | 2 => widths.2.1
            | 4 => widths.2.2.1
            | _ => widths.2.2.2
          named rest size width fun octets =>
            let value := numberOf octets
            match kind with
            | 'd' =>
                let half := Nat.pow 256 size / 2
                ofInt (if value < half then (value : Int)
                  else (value : Int) - (Nat.pow 256 size : Nat))
            | 'o' => padLeft width '0' (Nat.toDigits 8 value)
            | 'u' => ofNat value
            | _ => padLeft width '0' (Nat.toDigits 16 value)
  | [] => none

/-- The formats that letters name, one after the other. -/
def formats? (isBig : Bool) : Nat → List Char → Option (List Format)
  | 0, _ => none
  | fuel + 1, text =>
      if text.isEmpty then some []
      else
        (format? isBig text).bind fun (format, rest) =>
          (formats? isBig fuel rest).map fun formats => format :: formats

/-- A row of octets in a format.  All formats of a row are equally wide. -/
def Format.show (format : Format) (rowSize width : Nat) (row : List Char) : List Char :=
  let count := rowSize / format.size
  let pad := width - format.width * count
  let groups := Digest.chunks format.size (row.length + 1) row
  let (shown, _, _) := groups.foldl
    (fun (state : List Char × Nat × Nat) group =>
      let (shown, left, fields) := state
      let filled := group ++ List.replicate (format.size - group.length) '\x00'
      let next := pad * (fields - 1) / count
      (shown ++ padLeft (left - next + format.width) ' ' (format.shown filled), next, fields - 1))
    ([], pad, count)
  if format.hasText then
    let missing := width - shown.length
    shown ++ List.replicate missing ' ' ++ "  >".toList ++ (row.map fun octet =>
      if 32 ≤ octet.toNat ∧ octet.toNat < 127 then octet else '.') ++ ['<']
  else shown

/-- The formats that the options name. -/
def formatsOf (options : Options) : Option (List Format) := do
  let isBig := (options.value? 'E').any fun text => "big".toList = text
  let texts := options.given.filterMap fun entry =>
    match entry.1 with
    | 't' => some entry.2
    | 'a' => some ['a']
    | 'b' => some ['o', '1']
    | 'c' => some ['c']
    | 'd' => some ['u', '2']
    | 'i' => some ['d', 'I']
    | 'l' => some ['d', 'L']
    | 'o' => some ['o', '2']
    | 's' => some ['d', '2']
    | 'x' => some ['x', '2']
    | _ => none
  let texts := if texts.isEmpty then [['o', '2']] else texts
  let found ← texts.mapM fun text => formats? isBig (text.length + 1) text
  return found.flatten

/-- Shows octets as numbers or characters, with a star for rows that are repeated. -/
def od : Tool :=
  withOptions ["A=address-radix", "j=skip-bytes", "N=read-bytes", "t=format", "v output-duplicates",
    "w?width", "a", "b", "c", "d", "i", "l", "o", "s", "x", "E:endian"] fun invocation options =>
      match formatsOf options with
      | none =>
          invocation.fail ("invalid type string " ++ curly ((options.value? 't').getD [])) 1
      | some formats =>
          let (contents, outcome) := invocation.readAll options.operands
          let text := contents.flatMap Prod.snd
          let number := fun letter : Char => (options.value? letter).bind Size.ofText?
          let skipped := (number 'j').getD 0
          let text := text.drop skipped
          let text := match number 'N' with
            | some count => text.take count
            | none => text
          let outcome := match number 'N' with
            | some count =>
                if options.operands.isEmpty then
                  { outcome with input := invocation.input.drop (skipped + count) }
                else outcome
            | none => outcome
          let size := match options.value? 'w' with
            | none => 16
            | some [] => 32
            | some width => (toNat? width).getD 16
          let width := (formats.map fun format =>
            (format.width + 1) * (size / format.size)).foldl max 0
          let address := fun offset : Nat =>
            match options.value? 'A' with
            | some ['n'] => []
            | some ['d'] => padLeft 7 '0' (ofNat offset)
            | some ['x'] => padLeft 6 '0' (Nat.toDigits 16 offset)
            | _ => padLeft 7 '0' (Nat.toDigits 8 offset)
          let blank := List.replicate (address 0).length ' '
          let showRow := fun (offset : Nat) (row : List Char) =>
            formats.zipIdx.flatMap fun (format, index) =>
              (if index = 0 then address offset else blank) ++
                format.show size width row ++ ['\n']
          let (shown, _) := (Digest.chunks size (text.length + 1) text).foldl
            (fun (state : List (List Char) × Nat × List Char × Bool) row =>
              let (shown, offset, last, isStarred) := state
              if row = last ∧ row.length = size ∧ ¬options.has 'v' then
                (if isStarred then shown else ['*', '\n'] :: shown, offset + size, last, true)
              else (showRow offset row :: shown, offset + row.length, row, false))
            (([] : List (List Char)), skipped, ([] : List Char), false)
          let final := address (skipped + text.length)
          outcome.say (shown.reverse.flatten ++ (if final.isEmpty then [] else final ++ ['\n']))

end Encoding
end Shell
end Snippets
