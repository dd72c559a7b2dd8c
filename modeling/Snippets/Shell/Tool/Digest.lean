import Snippets.Shell.Tool.Display

/-!
# Checksums

Numbers that are computed from all octets of a text, so that a change of the text shows:
sums, remainders of polynomials, and digests that mix blocks of words.
-/

namespace Snippets
namespace Shell
namespace Digest

/-- The number that octets spell in base 256, the first one counting most. -/
def bigEndian (octets : List Char) : Nat :=
  octets.foldl (fun value octet => value * 256 + octet.toNat) 0

/-- The number that octets spell in base 256, the last one counting most. -/
def littleEndian (octets : List Char) : Nat :=
  octets.foldr (fun octet value => value * 256 + octet.toNat) 0

/-- The octets of a number, the one that counts most first. -/
def toBigEndian (count value : Nat) : List Char :=
  (List.range count).reverse.map fun index => Char.ofNat (value / Nat.pow 256 index % 256)

/-- The octets of a number, the one that counts least first. -/
def toLittleEndian (count value : Nat) : List Char :=
  (List.range count).map fun index => Char.ofNat (value / Nat.pow 256 index % 256)

/-- Octets in groups of a size. -/
def chunks (size : Nat) : Nat → List Char → List (List Char)
  | 0, _ => []
  | fuel + 1, octets =>
      if octets.isEmpty then [] else octets.take size :: chunks size fuel (octets.drop size)

/-- The digits of octets in base sixteen. -/
def hexadecimal (octets : List Char) : List Char :=
  octets.flatMap fun octet => padLeft 2 '0' (Nat.toDigits 16 octet.toNat)

/-- A text followed by one bit, zeros, and the number of its bits, so that it fills blocks. -/
def padded (block : Nat) (isBig : Bool) (octets : List Char) : List Char :=
  let field := block / 8
  let zeros := (2 * block - 1 - field - octets.length % block) % block
  let bits := octets.length * 8
  octets ++ '\x80' :: List.replicate zeros '\x00' ++
    (if isBig then toBigEndian field bits else toLittleEndian field bits)

/-- A word of 32 bits whose bits have been turned to the left. -/
def turn (word : UInt32) (count : Nat) : UInt32 :=
  (word <<< (UInt32.ofNat count)) ||| (word >>> (UInt32.ofNat (32 - count)))

/-- A word of 64 bits whose bits have been turned to the right. -/
def turnRight (word : UInt64) (count : Nat) : UInt64 :=
  (word >>> (UInt64.ofNat count)) ||| (word <<< (UInt64.ofNat (64 - count)))

/-- The words that are added in the steps of the digest of 128 bits. -/
def sineWords : Array UInt32 := #[
   0xd76aa478, 0xe8c7b756, 0x242070db, 0xc1bdceee, 0xf57c0faf, 0x4787c62a,
   0xa8304613, 0xfd469501, 0x698098d8, 0x8b44f7af, 0xffff5bb1, 0x895cd7be,
   0x6b901122, 0xfd987193, 0xa679438e, 0x49b40821, 0xf61e2562, 0xc040b340,
   0x265e5a51, 0xe9b6c7aa, 0xd62f105d, 0x02441453, 0xd8a1e681, 0xe7d3fbc8,
   0x21e1cde6, 0xc33707d6, 0xf4d50d87, 0x455a14ed, 0xa9e3e905, 0xfcefa3f8,
   0x676f02d9, 0x8d2a4c8a, 0xfffa3942, 0x8771f681, 0x6d9d6122, 0xfde5380c,
   0xa4beea44, 0x4bdecfa9, 0xf6bb4b60, 0xbebfbc70, 0x289b7ec6, 0xeaa127fa,
   0xd4ef3085, 0x04881d05, 0xd9d4d039, 0xe6db99e5, 0x1fa27cf8, 0xc4ac5665,
   0xf4292244, 0x432aff97, 0xab9423a7, 0xfc93a039, 0x655b59c3, 0x8f0ccc92,
   0xffeff47d, 0x85845dd1, 0x6fa87e4f, 0xfe2ce6e0, 0xa3014314, 0x4e0811a1,
   0xf7537e82, 0xbd3af235, 0x2ad7d2bb, 0xeb86d391]

/-- How far words are turned in the steps of the digest of 128 bits. -/
def sineTurns : Array Nat :=
  #[7, 12, 17, 22, 5, 9, 14, 20, 4, 11, 16, 23, 6, 10, 15, 21]

/-- Four words of 32 bits. -/
abbrev Four := UInt32 × UInt32 × UInt32 × UInt32

/-- A step of the digest of 128 bits. -/
def md5Step (words : Array UInt32) (state : Four) (index : Nat) : Four :=
  let (a, b, c, d) := state
  let (mixed, place) :=
    if index < 16 then ((b &&& c) ||| (~~~b &&& d), index)
    else if index < 32 then ((d &&& b) ||| (~~~d &&& c), (5 * index + 1) % 16)
    else if index < 48 then (b ^^^ c ^^^ d, (3 * index + 5) % 16)
    else (c ^^^ (b ||| ~~~d), 7 * index % 16)
  let sum := mixed + a + sineWords[index]! + words[place]!
  let count := sineTurns[index / 16 * 4 + index % 4]!
  (d, b + turn sum count, b, c)

/-- The digest of 128 bits. -/
def md5 (octets : List Char) : List Char :=
  let blocks := chunks 64 (octets.length / 64 + 2) (padded 64 false octets)
  let (a, b, c, d) := blocks.foldl
    (fun (state : Four) block =>
      let words := ((chunks 4 17 block).map fun part => UInt32.ofNat (littleEndian part)).toArray
      let (a, b, c, d) := (List.range 64).foldl (md5Step words) state
      (state.1 + a, state.2.1 + b, state.2.2.1 + c, state.2.2.2 + d))
    ((0x67452301, 0xefcdab89, 0x98badcfe, 0x10325476) : Four)
  [a, b, c, d].flatMap fun word => toLittleEndian 4 word.toNat

/-- The digest of 160 bits. -/
def sha1 (octets : List Char) : List Char :=
  let blocks := chunks 64 (octets.length / 64 + 2) (padded 64 true octets)
  let start : Array UInt32 := #[0x67452301, 0xefcdab89, 0x98badcfe, 0x10325476, 0xc3d2e1f0]
  let final := blocks.foldl
    (fun (state : Array UInt32) block =>
      let words := ((chunks 4 17 block).map fun part => UInt32.ofNat (bigEndian part)).toArray
      let words := (List.range 64).foldl
        (fun (words : Array UInt32) index =>
          words.push (turn (words[index + 13]! ^^^ words[index + 8]! ^^^ words[index + 2]! ^^^
            words[index]!) 1))
        words
      let mixed := (List.range 80).foldl
        (fun (mixed : Array UInt32) index =>
          let a := mixed[0]!
          let b := mixed[1]!
          let c := mixed[2]!
          let d := mixed[3]!
          let (chosen, added) :=
            if index < 20 then ((b &&& c) ||| (~~~b &&& d), (0x5a827999 : UInt32))
            else if index < 40 then (b ^^^ c ^^^ d, 0x6ed9eba1)
            else if index < 60 then ((b &&& c) ||| (b &&& d) ||| (c &&& d), 0x8f1bbcdc)
            else (b ^^^ c ^^^ d, 0xca62c1d6)
          #[turn a 5 + chosen + mixed[4]! + added + words[index]!, a, turn b 30, c, d])
        state
      (state.zip mixed).map fun entry => entry.1 + entry.2)
    start
  final.toList.flatMap fun word => toBigEndian 4 word.toNat

/-- The prime numbers below a bound, in ascending order. -/
def primesBelow (bound : Nat) : List Nat :=
  (List.range bound).filter fun number =>
    2 ≤ number && (List.range number).all fun divisor => divisor < 2 || number % divisor != 0

/-- The greatest number whose power is at most a number, found bit by bit. -/
def root (power value : Nat) : Nat :=
  (List.range (value.log2 / power + 1)).reverse.foldl
    (fun found bit =>
      let larger := found + Nat.pow 2 bit
      if Nat.pow larger power ≤ value then larger else found)
    0

/-- The first bits after the point of a root of a number. -/
def rootBits (power bits value : Nat) : Nat :=
  root power (value * Nat.pow 2 (power * bits)) % Nat.pow 2 bits

/-- The words that are added in the steps of the longer digests: bits of the cube roots of
prime numbers. -/
def cubeWords : Array UInt64 :=
  ((primesBelow 410).map fun prime => UInt64.ofNat (rootBits 3 64 prime)).toArray

/-- Bits of the square roots of prime numbers. -/
def squareWords : Array UInt64 :=
  ((primesBelow 54).map fun prime => UInt64.ofNat (rootBits 2 64 prime)).toArray

/-- What differs between the longer digests. -/
structure Family where
  /-- The number of bits of a word. -/
  bits : Nat
  /-- The number of steps for a block. -/
  steps : Nat
  /-- How far words are turned or shifted. -/
  turns : List Nat

/-- The family with words of 32 bits. -/
def family32 : Family := ⟨32, 64, [2, 13, 22, 6, 11, 25, 7, 18, 3, 17, 19, 10]⟩

/-- The family with words of 64 bits. -/
def family64 : Family := ⟨64, 80, [28, 34, 39, 14, 18, 41, 1, 8, 7, 19, 61, 6]⟩

/-- The bits of a word that belong to it in a family. -/
def Family.cut (family : Family) (word : UInt64) : UInt64 :=
  if family.bits = 32 then word &&& 0xffffffff else word

/-- A word of a family whose bits have been turned to the right. -/
def Family.turn (family : Family) (word : UInt64) (count : Nat) : UInt64 :=
  if family.bits = 32 then
    family.cut ((word >>> UInt64.ofNat count) ||| (word <<< UInt64.ofNat (32 - count)))
  else turnRight word count

/-- A word mixed with itself: two turned copies and one that is turned or shifted. -/
def Family.mix (family : Family) (first : Nat) (shifts : Bool) (word : UInt64) : UInt64 :=
  let count := fun index : Nat => family.turns[first + index]?.getD 0
  family.turn word (count 0) ^^^ family.turn word (count 1) ^^^
    (if shifts then word >>> UInt64.ofNat (count 2) else family.turn word (count 2))

/-- A longer digest of a text from a start, cut to a number of octets. -/
def Family.digest (family : Family) (start : Array UInt64) (length : Nat) (octets : List Char) :
    List Char :=
  let size := family.bits * 2
  let width := family.bits / 8
  let added : Array UInt64 := cubeWords.map fun word : UInt64 =>
    if family.bits = 32 then word >>> (32 : UInt64) else word
  let blocks := chunks size (octets.length / size + 2) (padded size true octets)
  let final := blocks.foldl
    (fun (state : Array UInt64) block =>
      let words := ((chunks width 17 block).map fun part => UInt64.ofNat (bigEndian part)).toArray
      let words := (List.range (family.steps - 16)).foldl
        (fun (words : Array UInt64) index =>
          words.push (family.cut (words[index]! + family.mix 6 true words[index + 1]! +
            words[index + 9]! + family.mix 9 true words[index + 14]!)))
        words
      let mixed := (List.range family.steps).foldl
        (fun (mixed : Array UInt64) index =>
          let a := mixed[0]!
          let b := mixed[1]!
          let c := mixed[2]!
          let e := mixed[4]!
          let f := mixed[5]!
          let g := mixed[6]!
          let first := mixed[7]! + family.mix 3 false e + ((e &&& f) ^^^ (~~~e &&& g)) +
            added[index]! + words[index]!
          let second := family.mix 0 false a + ((a &&& b) ^^^ (a &&& c) ^^^ (b &&& c))
          #[family.cut (first + second), a, b, c, family.cut (mixed[3]! + first), e, f, g])
        state
      (state.zip mixed).map fun entry => family.cut (entry.1 + entry.2))
    start
  (final.toList.flatMap fun word => toBigEndian width word.toNat).take length

/-- The digest of 224 bits. -/
def sha224 : List Char → List Char :=
  family32.digest ((squareWords.extract 8 16).map fun word : UInt64 => word &&& 0xffffffff) 28

/-- The digest of 256 bits. -/
def sha256 : List Char → List Char :=
  family32.digest ((squareWords.extract 0 8).map fun word : UInt64 => word >>> (32 : UInt64)) 32

/-- The digest of 384 bits. -/
def sha384 : List Char → List Char :=
  family64.digest (squareWords.extract 8 16) 48

/-- The digest of 512 bits. -/
def sha512 : List Char → List Char :=
  family64.digest (squareWords.extract 0 8) 64

/-- The order in which the words of a block are used in the rounds of the digest without
padding bits. -/
def blakeOrders : Array (Array Nat) :=
  #[#[0, 1, 2, 3, 4, 5, 6, 7, 8, 9, 10, 11, 12, 13, 14, 15],
    #[14, 10, 4, 8, 9, 15, 13, 6, 1, 12, 0, 2, 11, 7, 5, 3],
    #[11, 8, 12, 0, 5, 2, 15, 13, 10, 14, 3, 6, 7, 1, 9, 4],
    #[7, 9, 3, 1, 13, 12, 11, 14, 2, 6, 5, 10, 4, 0, 15, 8],
    #[9, 0, 5, 7, 2, 4, 10, 15, 14, 1, 11, 12, 6, 8, 3, 13],
    #[2, 12, 6, 10, 0, 11, 8, 3, 4, 13, 7, 5, 15, 14, 1, 9],
    #[12, 5, 1, 15, 14, 13, 4, 10, 0, 7, 6, 3, 9, 2, 8, 11],
    #[13, 11, 7, 14, 12, 1, 3, 9, 5, 0, 15, 4, 8, 6, 2, 10],
    #[6, 15, 14, 9, 11, 3, 0, 8, 12, 2, 13, 7, 1, 4, 10, 5],
    #[10, 2, 8, 4, 7, 6, 1, 5, 15, 11, 9, 14, 3, 12, 13, 0]]

/-- The places of the words that are mixed in the steps of a round. -/
def blakePlaces : List (Nat × Nat × Nat × Nat) :=
  [(0, 4, 8, 12), (1, 5, 9, 13), (2, 6, 10, 14), (3, 7, 11, 15),
   (0, 5, 10, 15), (1, 6, 11, 12), (2, 7, 8, 13), (3, 4, 9, 14)]

/-- The digest without padding bits, of a number of octets. -/
def blake2 (length : Nat) (octets : List Char) : List Char :=
  let start := (squareWords.extract 0 8)
  let first := start.set! 0 (start[0]! ^^^ UInt64.ofNat (0x01010000 + length))
  let blocks := if octets.isEmpty then [[]] else chunks 128 (octets.length / 128 + 2) octets
  let (final, _) := blocks.foldl
    (fun (state : Array UInt64 × Nat) block =>
      let (hash, count) := state
      let count := count + block.length
      let isLast := count = octets.length
      let filled := block ++ List.replicate (128 - block.length) '\x00'
      let words := ((chunks 8 17 filled).map fun part => UInt64.ofNat (littleEndian part)).toArray
      let vector := hash ++ start
      let vector := vector.set! 12 (vector[12]! ^^^ UInt64.ofNat count)
      let vector := if isLast then vector.set! 14 (~~~vector[14]!) else vector
      let mixed := (List.range 12).foldl
        (fun (vector : Array UInt64) round =>
          let order := blakeOrders[round % 10]!
          blakePlaces.zipIdx.foldl
            (fun (vector : Array UInt64) (entry : (Nat × Nat × Nat × Nat) × Nat) =>
              let ((a, b, c, d), step) := entry
              let x := words[order[2 * step]!]!
              let y := words[order[2 * step + 1]!]!
              let va := vector[a]! + vector[b]! + x
              let vd := turnRight (vector[d]! ^^^ va) 32
              let vc := vector[c]! + vd
              let vb := turnRight (vector[b]! ^^^ vc) 24
              let va := va + vb + y
              let vd := turnRight (vd ^^^ va) 16
              let vc := vc + vd
              let vb := turnRight (vb ^^^ vc) 63
              (((vector.set! a va).set! b vb).set! c vc).set! d vd)
            vector)
        vector
      ((hash.zipIdx.map fun entry =>
        entry.1 ^^^ mixed[entry.2]! ^^^ mixed[entry.2 + 8]!), count))
    (first, 0)
  (final.toList.flatMap fun word => toLittleEndian 8 word.toNat).take length

/-- The remainders of the octets moved by a word, for the sum of polynomials. -/
def remainders : Array UInt32 :=
  ((List.range 256).map fun octet =>
    (List.range 8).foldl
      (fun (value : UInt32) _ =>
        if value &&& 0x80000000 ≠ 0 then (value <<< 1) ^^^ 0x04c11db7 else value <<< 1)
      (UInt32.ofNat octet <<< 24)).toArray

/-- The octets of a number without zeros at its end, the one that counts least first. -/
def lengthOctets : Nat → Nat → List Char
  | 0, _ => []
  | fuel + 1, length =>
      if length = 0 then [] else Char.ofNat (length % 256) :: lengthOctets fuel (length / 256)

/-- The remainder of a text and its length as polynomials. -/
def crc (octets : List Char) : Nat :=
  let all := octets ++ lengthOctets 16 octets.length
  (~~~(all.foldl
    (fun (value : UInt32) octet =>
      (value <<< 8) ^^^ remainders[((value >>> 24) ^^^ UInt32.ofNat octet.toNat).toNat % 256]!)
    0)).toNat

/-- The sum of octets, turned by a bit after each of them. -/
def turnedSum (octets : List Char) : Nat :=
  octets.foldl
    (fun sum octet => (sum / 2 + sum % 2 * 0x8000 + octet.toNat) % 0x10000) 0

/-- The sum of octets, folded into sixteen bits. -/
def foldedSum (octets : List Char) : Nat :=
  let sum := octets.foldl (fun sum octet => sum + octet.toNat) 0 % 0x100000000
  let once := sum % 0x10000 + sum / 0x10000
  once % 0x10000 + once / 0x10000

/-- The digests by their names. -/
def digests : List (String × (List Char → List Char)) :=
  [("md5", md5), ("sha1", sha1), ("sha224", sha224), ("sha256", sha256), ("sha384", sha384),
   ("sha512", sha512), ("blake2b", blake2 64)]

/-- A line of a list of digests: the digest and the name of a file. -/
def listedDigest? (line : List Char) : Option (List Char × List Char) :=
  let isDigit := fun octet : Char => octet.isDigit || ('a' ≤ octet.toLower && octet.toLower ≤ 'f')
  let digits := line.takeWhile isDigit
  match line.drop digits.length with
  | ' ' :: sign :: name =>
      if (sign = ' ' ∨ sign = '*') ∧ digits ≠ [] ∧ name ≠ [] then some (digits, name) else none
  | _ =>
      -- A line may also name the kind of the digest first.
      let kind := line.takeWhile (· != ' ')
      match line.drop kind.length with
      | ' ' :: '(' :: rest =>
          let reversed := rest.reverse
          let digits := (reversed.takeWhile isDigit).reverse
          match reversed.drop digits.length with
          | ' ' :: '=' :: ' ' :: ')' :: name => some (digits, name.reverse)
          | _ => none
      | _ => none

/-- A number of things and their name. -/
def counted (count : Nat) (one many : String) : String :=
  toString count ++ " " ++ (if count = 1 then one else many)

/-- Checks the digests that files list. -/
def check (digest : List Char → List Char) (invocation : Invocation) (options : Options) :
    Outcome :=
  let (contents, outcome) := invocation.readAll options.operands
  contents.foldl
    (fun outcome entry =>
      let found := (lines entry.2).map listedDigest?
      let good := found.filterMap id
      let quiet := options.has 'q' || options.has 'S'
      if good.isEmpty then
        outcome.complain (invocation.complaint (ofText
          (titled entry.1 ++ ": no properly formatted checksum lines found"))) 1
      else
        let (outcome, wrong, missing) := good.foldl
          (fun (state : Outcome × Nat × Nat) listed =>
            let (outcome, wrong, missing) := state
            match invocation.read listed.2 with
            | .error message =>
                if options.has 'I' then state
                else
                  let outcome := outcome.complain (invocation.complaint (ofText
                    (titled listed.2 ++ ": " ++ message))) 1
                  let outcome := if options.has 'S' then outcome
                    else outcome.say (listed.2 ++ ": FAILED open or read\n".toList)
                  (outcome, wrong, missing + 1)
            | .ok text =>
                if hexadecimal (digest text) = listed.1.map Char.toLower then
                  (if quiet then outcome else outcome.say (listed.2 ++ ": OK\n".toList),
                    wrong, missing)
                else
                  ((if options.has 'S' then outcome
                    else outcome.say (listed.2 ++ ": FAILED\n".toList)).withStatus 1,
                    wrong + 1, missing))
          (outcome, 0, 0)
        let warn := fun (count : Nat) (one many : String) (outcome : Outcome) =>
          if count = 0 ∨ options.has 'S' then outcome
          else
            { outcome.write 2 (invocation.complaint (ofText ("WARNING: " ++
              counted count one many))) with status := 1 }
        let unread := found.length - good.length
        let outcome := if unread = 0 ∨ options.has 'S' then outcome
          else outcome.write 2 (invocation.complaint (ofText ("WARNING: " ++
            counted unread "line is improperly formatted" "lines are improperly formatted")))
        warn wrong "computed checksum did NOT match" "computed checksums did NOT match"
          (warn missing "listed file could not be read" "listed files could not be read" outcome))
    outcome

/-- A program that prints the digests of files. -/
def printing (kind : String) (digest : Options → List Char → List Char) : Tool :=
  withOptions ["b binary", "c check", "l=length", "t text", "T-tag", "z zero", "q-quiet",
    "S-status", "w warn", "I-ignore-missing", "X-strict"] fun invocation options =>
      if options.has 'c' then check (digest options) invocation options
      else
        let (contents, outcome) := invocation.readAll options.operands
        outcome.say (contents.flatMap fun entry =>
          let digits := hexadecimal (digest options entry.2)
          let mark := markOf options
          if options.has 'T' then
            ofText kind ++ " (".toList ++ entry.1 ++ ") = ".toList ++ digits ++ [mark]
          else digits ++ [' ', if options.has 'b' then '*' else ' '] ++ entry.1 ++ [mark])

/-- The length that an option gives, in octets. -/
def lengthOf (options : Options) : Nat :=
  match (options.value? 'l').bind toNat? with
  | some bits => if bits = 0 then 64 else bits / 8
  | none => 64

/-- Prints a remainder of polynomials, or a digest of a given kind. -/
def cksum : Tool :=
  withOptions ["a=algorithm", "c check", "l=length", "T-tag", "U-untagged", "z zero",
    "B-base64", "R-raw", "q-quiet", "S-status", "w warn", "I-ignore-missing", "X-strict",
    "D-debug"] fun invocation options =>
      let kind := toText ((options.value? 'a').getD "crc".toList)
      let (contents, outcome) := invocation.readAll options.operands
      let named := fun name : List Char =>
        if options.operands.isEmpty then [] else ' ' :: name
      match kind with
      | "crc" =>
          outcome.say (contents.flatMap fun entry =>
            ofNat (crc entry.2) ++ ' ' :: ofNat entry.2.length ++ named entry.1 ++ ['\n'])
      | "bsd" =>
          outcome.say (contents.flatMap fun entry =>
            padLeft 5 '0' (ofNat (turnedSum entry.2)) ++ ' ' ::
              padLeft 5 ' ' (ofNat ((entry.2.length + 1023) / 1024)) ++ named entry.1 ++ ['\n'])
      | "sysv" =>
          outcome.say (contents.flatMap fun entry =>
            ofNat (foldedSum entry.2) ++ ' ' :: ofNat ((entry.2.length + 511) / 512) ++
              named entry.1 ++ ['\n'])
      | kind =>
          match if kind = "blake2b" then some (blake2 (lengthOf options))
              else digests.lookup kind with
          | none =>
              invocation.misused ("invalid argument " ++ curly (ofText kind) ++
                " for ‘--algorithm’") 1
          | some digest =>
              if options.has 'c' then check digest invocation options
              else
                let title := if kind = "blake2b" then "BLAKE2b" else kind.toUpper
                outcome.say (contents.flatMap fun entry =>
                  let digits := hexadecimal (digest entry.2)
                  if options.has 'U' then digits ++ "  ".toList ++ entry.1 ++ ['\n']
                  else ofText title ++ " (".toList ++ entry.1 ++ ") = ".toList ++ digits ++ ['\n'])

/-- Prints a sum of octets and a number of blocks. -/
def sum : Tool :=
  withOptions ["r", "s sysv"] fun invocation options =>
    let (contents, outcome) := invocation.readAll options.operands
    let named := fun name : List Char =>
      if options.operands.isEmpty then [] else ' ' :: name
    outcome.say (contents.flatMap fun entry =>
      if options.last? "rs" = some 's' then
        ofNat (foldedSum entry.2) ++ ' ' :: ofNat ((entry.2.length + 511) / 512) ++
          named entry.1 ++ ['\n']
      else
        padLeft 5 '0' (ofNat (turnedSum entry.2)) ++ ' ' ::
          padLeft 5 ' ' (ofNat ((entry.2.length + 1023) / 1024)) ++ named entry.1 ++ ['\n'])

/-- The programs that print digests of one kind. -/
def programs : List (String × Tool) :=
  [("md5sum", printing "MD5" fun _ => md5), ("sha1sum", printing "SHA1" fun _ => sha1),
   ("sha224sum", printing "SHA224" fun _ => sha224),
   ("sha256sum", printing "SHA256" fun _ => sha256),
   ("sha384sum", printing "SHA384" fun _ => sha384),
   ("sha512sum", printing "SHA512" fun _ => sha512),
   ("b2sum", printing "BLAKE2b" fun options => blake2 (lengthOf options)),
   ("cksum", cksum), ("sum", sum)]

end Digest
end Shell
end Snippets
