import Snippets.Shell.Tool.Display

/-!
# Filling lines

The words of a paragraph are put into lines of about the same width.  Each way to do it has a
cost, and the cheapest one is taken.
-/

namespace Snippets
namespace Shell
namespace Filling

/-- A word of a paragraph. -/
structure FillWord where
  /-- Its octets. -/
  text : List Char
  /-- The number of spaces after it. -/
  space : Nat
  /-- Whether it starts with an opening sign. -/
  opens : Bool
  /-- Whether it ends like a sentence. -/
  ends : Bool
  /-- Whether it ends with a punctuation mark. -/
  isPunctuated : Bool
  /-- Whether it ends a sentence. -/
  isFinal : Bool

/-- How wide lines are, and what is done with the lines that are read. -/
structure FillStyle where
  /-- The greatest width. -/
  width : Nat
  /-- The width that is aimed at. -/
  goal : Nat
  /-- Whether lines are only cut and never joined. -/
  cutsOnly : Bool
  /-- Whether one space is between words, and two are between sentences. -/
  isUniform : Bool
  /-- Whether the indentation of the second line is kept. -/
  keepsSecond : Bool
  /-- Whether the first line has an indentation of its own. -/
  isTagged : Bool

/-- The square of a number. -/
def square (value : Int) : Int := value * value

/-- The cost of a line that is shorter or longer than wanted. -/
def shortCost (distance : Int) : Int := square (distance * 10)

/-- The cost of a line that is shorter or longer than its neighbour. -/
def raggedCost (distance : Int) : Int := shortCost distance / 2

/-- The best way to go on from a word. -/
structure Plan where
  /-- The cost. -/
  cost : Int
  /-- The number of words in the line that starts with the word. -/
  count : Nat
  /-- The width of that line. -/
  width : Nat
  /-- Whether that line is the last one. -/
  isLast : Bool

/-- The cost of a line that starts with a word, whatever its width, by the two words before
it. -/
def baseCost (before beforeThat : Option FillWord) (word : FillWord) : Int :=
  let cost := square 70
  let cost := match before with
    | none => cost
    | some previous =>
        if previous.ends then
          (if previous.isFinal then cost - square 50 else cost + square 600)
        else if previous.isPunctuated then cost - square 40
        else if beforeThat.any FillWord.isFinal then
          cost + square 200 / ((previous.text.length : Int) + 2)
        else cost
  if word.opens then cost - square 40
  else if word.isFinal then cost + square 150 / ((word.text.length : Int) + 2)
  else cost

/-- The best line that starts at a point, out of those that end before each of the words that
follow. -/
def bestLine (style : FillStyle) (extra : Nat → Int) :
    Nat → Nat → Nat → Option Plan → List FillWord → List Plan → Option Plan
  | 0, _, _, best, _, _ => best
  | fuel + 1, count, width, best, words, plans =>
      let cost := match plans with
        | [] => 0
        | plan :: _ =>
            shortCost ((style.goal : Int) - width) + plan.cost +
              (if plan.isLast then 0 else raggedCost ((width : Int) - plan.width))
      let cost := cost + extra width
      let best := match best with
        | some found =>
            if cost < found.cost then some ⟨cost, count, width, plans.isEmpty⟩ else some found
        | none => some ⟨cost, count, width, plans.isEmpty⟩
      match words, plans with
      | word :: next :: rest, _ :: plans =>
          let width := width + word.space + next.text.length
          if width < style.width then
            bestLine style extra fuel (count + 1) width best (next :: rest) plans
          else best
      | _, _ => best

/-- The plans for all words, each of which may start a line.  The words come with those before
them. -/
def plansFor (style : FillStyle) (first other : Nat) (last : Nat) :
    Option FillWord → Option FillWord → List FillWord → List Plan
  | _, _, [] => []
  | before, beforeThat, word :: rest =>
      let plans := plansFor style first other last (some word) before rest
      let indent := if before.isNone then first else other
      let extra := fun width : Nat =>
        if before.isNone ∧ 0 < last then raggedCost ((width : Int) - last) else 0
      match bestLine style extra (rest.length + 1) 1 (indent + word.text.length) none
          (word :: rest) plans with
      | some plan => { plan with cost := plan.cost + baseCost before beforeThat word } :: plans
      | none => plans

/-- The lines of words by their plans. -/
def layOut (indent other : Nat) : Nat → List FillWord → List Plan → List Char
  | 0, _, _ => []
  | fuel + 1, words, plans =>
      match plans with
      | [] => []
      | plan :: _ =>
          let line := words.take plan.count
          let shown := (line.zipIdx 1).flatMap fun (word, index) =>
            word.text ++ if index = line.length then [] else List.replicate word.space ' '
          List.replicate indent ' ' ++ shown ++
            '\n' :: layOut other other fuel (words.drop plan.count) (plans.drop plan.count)

/-- The words of a line. -/
def wordsOf (style : FillStyle) (line : List Char) : List FillWord :=
  let isBlank := fun octet : Char => " \t\x0b\x0c\r".toList.contains octet
  let rec split : Nat → List Char → List FillWord
    | 0, _ => []
    | fuel + 1, text =>
        match text.dropWhile isBlank with
        | [] => []
        | text =>
            let word := text.takeWhile fun octet => !isBlank octet
            let after := text.drop word.length
            let space := (after.takeWhile isBlank).length
            let isEnd := (after.drop space).isEmpty
            let finish := word.getLast?
            let core := match word with
              | first :: more =>
                  (first :: (more.reverse.dropWhile fun octet =>
                    ")]'\"".toList.contains octet).reverse).getLast?
              | [] => none
            let ends := core.any fun octet => ".?!".toList.contains octet
            let isFinal := ends && (isEnd || 1 < space)
            let isMark := fun octet : Char =>
              33 ≤ octet.toNat && octet.toNat < 127 && !octet.isAlphanum
            let space := if isEnd || style.isUniform then (if isFinal then 2 else 1) else space
            ⟨word, space, word.head?.any fun octet => "(['\x60\"".toList.contains octet, ends,
              finish.any isMark, isFinal⟩ :: split fuel (after.drop space)
  split (line.length + 1) line

/-- The width of the blanks at the start of a line. -/
def indentOf (line : List Char) : Nat :=
  (line.takeWhile fun octet => octet = ' ' || octet = '\t').foldl
    (fun width octet => if octet = '\t' then width / 8 * 8 + 8 else width + 1) 0

/-- The paragraphs of lines: the indentations of the first line and of the others, and the words.
An empty line stands by itself. -/
def paragraphs (style : FillStyle) : Nat → List (List Char) →
    List (Option (Nat × Nat × List FillWord))
  | 0, _ => []
  | fuel + 1, lines =>
      match lines with
      | [] => []
      | line :: rest =>
          let isEmpty := fun line : List Char => (wordsOf style line).isEmpty
          if isEmpty line then none :: paragraphs style fuel rest
          else
            let first := indentOf line
            let second := match rest with
              | next :: _ => if isEmpty next then first else indentOf next
              | [] => first
            let (other, joins) :=
              if style.cutsOnly then (first, false)
              else if style.isTagged then
                (if second = first then (first, false) else (second, true))
              else if style.keepsSecond then (second, true)
              else (first, true)
            let following := if joins then
                rest.takeWhile fun line => !isEmpty line && indentOf line = other
              else []
            let words := (line :: following).flatMap (wordsOf style)
            let words := match words.getLast? with
              | some last => words.dropLast ++ [{ last with ends := true, isFinal := true }]
              | none => words
            let tagged := if style.isTagged ∧ ¬joins then first + 3 else other
            some (first, if style.isTagged then tagged else other, words) ::
              paragraphs style fuel (rest.drop following.length)

/-- The paragraphs of a text filled. -/
def fill (style : FillStyle) (text : List Char) : List Char :=
  let found := lines text
  ((paragraphs style (found.length + 1) found).foldl
    (fun (shown : List (List Char)) paragraph =>
      match paragraph with
      | none => ['\n'] :: shown
      | some (first, other, words) =>
          let plans := plansFor style first other 0 none none words
          layOut first other (words.length + 1) words plans :: shown)
    []).reverse.flatten

/-- Fills the lines of files. -/
def fmt : Tool := fun invocation =>
  let arguments := match invocation.arguments with
    | ('-' :: digit :: rest) :: more =>
        if digit.isDigit then ('-' :: 'w' :: digit :: rest) :: more else invocation.arguments
    | arguments => arguments
  invocation.withOptions ["c crown-margin", "p=prefix", "s split-only", "t tagged-paragraph",
      "u uniform-spacing", "w=width", "g=goal"] true 1 arguments fun options =>
    match (options.value? 'w').map toNat?, (options.value? 'g').map toNat? with
    | some none, _ => invocation.fail ("invalid width: " ++ curly ((options.value? 'w').getD [])) 1
    | _, some none => invocation.fail ("invalid width: " ++ curly ((options.value? 'g').getD [])) 1
    | width, goal =>
        let (width, goal) := match width.bind id, goal.bind id with
          | some width, some goal => (width, goal)
          | some width, none => (width, width * 187 / 200)
          | none, some goal => (goal + 10, goal)
          | none, none => (75, 70)
        let style : FillStyle :=
          ⟨width, goal, options.has 's', options.has 'u', options.has 'c', options.has 't'⟩
        let (contents, outcome) := invocation.readAllWith
          (fun path message => "cannot open " ++ straight path ++ " for reading: " ++ message) 1
          options.operands
        outcome.say (contents.flatMap fun entry => fill style entry.2)

end Filling
end Shell
end Snippets
