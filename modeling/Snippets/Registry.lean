import Snippets.Runner
import Snippets.Text.Lowercase

/-!
# Runner registries

A registry holds one runner per language, in ascending order of the languages, so
that two registries with the same runners are equal.  The registry in effect is made
of the built-in runners and of overrides, each of which replaces the whole entry of
its language.
-/

namespace Snippets

/-- The runners of some languages. -/
structure Registry where
  /-- The languages in ascending order, with their runners. -/
  entries : List (String × Runner)
  /-- The order is strict, so that no language occurs twice. -/
  ordered : entries.Pairwise fun first second => first.1 < second.1
  deriving DecidableEq

namespace Registry

/-- No runner at all. -/
def empty : Registry :=
  ⟨[], .nil⟩

/-- Puts a runner among entries in ascending order. -/
def insertEntry (language : String) (runner : Runner) :
    List (String × Runner) → List (String × Runner)
  | [] => [(language, runner)]
  | entry :: rest =>
      if language < entry.1 then (language, runner) :: entry :: rest
      else if language = entry.1 then (language, runner) :: rest
      else entry :: insertEntry language runner rest

/-- An entry after an insertion is the new one or one of the old ones. -/
theorem mem_insertEntry {language : String} {runner : Runner} {entry : String × Runner}
    {entries : List (String × Runner)}
    (member : entry ∈ insertEntry language runner entries) :
    entry = (language, runner) ∨ entry ∈ entries := by
  induction entries with
  | nil => simpa [insertEntry] using member
  | cons first rest hypothesis =>
    unfold insertEntry at member
    split at member
    · simpa using member
    · split at member
      · rcases List.mem_cons.1 member with same | later
        · exact .inl same
        · exact .inr (List.mem_cons_of_mem _ later)
      · rcases List.mem_cons.1 member with same | later
        · exact .inr (same ▸ List.mem_cons_self)
        · rcases hypothesis later with new | old
          · exact .inl new
          · exact .inr (List.mem_cons_of_mem _ old)

/-- An insertion keeps the order. -/
theorem insertEntry_ordered {language : String} {runner : Runner}
    {entries : List (String × Runner)}
    (ordered : entries.Pairwise fun first second => first.1 < second.1) :
    (insertEntry language runner entries).Pairwise fun first second => first.1 < second.1 := by
  induction entries with
  | nil => simp [insertEntry]
  | cons first rest hypothesis =>
    obtain ⟨below, tail⟩ := List.pairwise_cons.1 ordered
    unfold insertEntry
    split
    · rename_i before
      refine List.pairwise_cons.2 ⟨fun entry member => ?_, ordered⟩
      rcases List.mem_cons.1 member with same | later
      · exact same ▸ before
      · exact String.lt_trans before (below entry later)
    · split
      · rename_i equal
        exact List.pairwise_cons.2 ⟨fun entry member => equal ▸ below entry member, tail⟩
      · rename_i notBefore notEqual
        refine List.pairwise_cons.2 ⟨fun entry member => ?_, hypothesis tail⟩
        rcases mem_insertEntry member with new | old
        · subst new
          refine Classical.byContradiction fun notAfter => notEqual ?_
          exact String.le_antisymm (String.not_lt.1 notAfter) (String.not_lt.1 notBefore)
        · exact below entry old

/-- Puts a runner under a language, in place of any runner that is there. -/
def insert (registry : Registry) (language : String) (runner : Runner) : Registry :=
  ⟨insertEntry language runner registry.entries, insertEntry_ordered registry.ordered⟩

/-- The runner of a language. -/
def get? (registry : Registry) (language : String) : Option Runner :=
  registry.entries.lookup language

/-- Whether there is a runner for a language. -/
def contains (registry : Registry) (language : String) : Bool :=
  (registry.get? language).isSome

/-- The languages in ascending order. -/
def languages (registry : Registry) : List String :=
  registry.entries.map Prod.fst

/-- Puts runners under their languages one after the other. -/
def insertAll (registry : Registry) (runners : List (String × Runner)) : Registry :=
  runners.foldl (fun result entry => result.insert entry.1 entry.2) registry

/-- The runners that are there without any configuration. -/
def builtin : Registry :=
  empty.insertAll
    [("javascript", ⟨"node \"\x7bfile\x7d\"", ".js"⟩),
     ("typescript", ⟨"npx ts-node \"\x7bfile\x7d\"", ".ts"⟩),
     ("python", ⟨"python3 \"\x7bfile\x7d\"", ".py"⟩),
     ("shellscript", ⟨"bash \"\x7bfile\x7d\"", ".sh"⟩),
     ("ruby", ⟨"ruby \"\x7bfile\x7d\"", ".rb"⟩),
     ("go", ⟨"go run \"\x7bfile\x7d\"", ".go"⟩),
     ("rust", ⟨"rustc \"\x7bfile\x7d\" -o \"\x7bfile\x7d.out\" && \"\x7bfile\x7d.out\"", ".rs"⟩),
     ("java", ⟨"java \"\x7bfile\x7d\"", ".java"⟩),
     ("c", ⟨"gcc \"\x7bfile\x7d\" -o \"\x7bfile\x7d.out\" && \"\x7bfile\x7d.out\"", ".c"⟩),
     ("cpp", ⟨"g++ \"\x7bfile\x7d\" -o \"\x7bfile\x7d.out\" && \"\x7bfile\x7d.out\"", ".cpp"⟩),
     ("php", ⟨"php \"\x7bfile\x7d\"", ".php"⟩),
     ("perl", ⟨"perl \"\x7bfile\x7d\"", ".pl"⟩),
     ("lua", ⟨"lua \"\x7bfile\x7d\"", ".lua"⟩),
     ("r", ⟨"Rscript \"\x7bfile\x7d\"", ".R"⟩)]

/-- The built-in runners with overrides in place, each under its language in lower
case.  Of two overrides for one language the later counts. -/
def withOverrides (overrides : List (String × Runner)) : Registry :=
  builtin.insertAll (overrides.map fun entry => (Text.lowercase entry.1, entry.2))

end Registry
end Snippets
