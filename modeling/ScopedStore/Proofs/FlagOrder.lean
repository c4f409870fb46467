/-
Flags may stand anywhere on a command line.

A `Flag` comes with the word that it takes, if it takes one. `Interleaved flags others words` says that `words` are
made up of the words of the flags and of the others, each in their order, with a flag and its word together. To read
such words is to note each flag where it stands and to keep the others (`Options.read_interleaved`, by induction on
the interleaving), so all that counts is the order of the flags; and of flags that are noted one after the other,
the last one with a value stays (`Options.foldl_note`).

Main result, `flags_may_stand_anywhere`: how flags and other words are interleaved makes no difference.
-/
import Mathlib.Tactic
import ScopedStore.CommandLine.Invocation
import ScopedStore.Proofs.Result

namespace ScopedStore

/-! ## Flags among other words -/

/-- a flag, with the word that it takes -/
inductive Flag where
  | config (file : String)
  | importFile (file : String)
  | json
  | verbose
  /-- the short form of `verbose` -/
  | v
  deriving DecidableEq

namespace Flag

/-- a flag as it is written -/
def words : Flag → List String
  | .config file => ["--config", file]
  | .importFile file => ["--import", file]
  | .json => ["--json"]
  | .verbose => ["--verbose"]
  | .v => ["-v"]

def config? : Flag → Option String
  | .config file => some file
  | _ => none

def importFile? : Flag → Option String
  | .importFile file => some file
  | _ => none

end Flag

/-- the word neither is a flag nor looks like one -/
structure Positional (word : String) : Prop where
  long : ¬"--".toList <+: word.toList
  short : word ≠ "-v"

/-- the words are those of the flags and the others, each in their order, and a flag stays together with its word -/
inductive Interleaved : List Flag → List String → List String → Prop where
  | nil : Interleaved [] [] []
  | flag {flags : List Flag} {others words : List String} (f : Flag) (h : Interleaved flags others words) :
      Interleaved (f :: flags) others (f.words ++ words)
  | other {flags : List Flag} {others words : List String} (word : String) (h : Interleaved flags others words) :
      Interleaved flags (word :: others) (word :: words)

/-- the flags can come first -/
theorem interleaved_append (flags : List Flag) (others : List String) :
    Interleaved flags others (flags.flatMap Flag.words ++ others) := by
  induction flags with
  | nil =>
    induction others with
    | nil => exact .nil
    | cons word others ih => exact .other word ih
  | cons f flags ih =>
    rw [List.flatMap_cons, List.append_assoc]
    exact .flag f ih

/-! ## Reading -/

namespace Options

/-- takes note of a flag -/
def note (options : Options) : Flag → Options
  | .config file => { options with config := some file }
  | .importFile file => { options with importFile := some file }
  | .json => { options with json := true }
  | .verbose => { options with verbose := true }
  | .v => { options with verbose := true }

/-- what flags come to: of several files for one purpose, the last one -/
def ofFlags (flags : List Flag) : Options where
  config := (flags.filterMap Flag.config?).getLast?
  importFile := (flags.filterMap Flag.importFile?).getLast?
  json := .json ∈ flags
  verbose := .verbose ∈ flags ∨ .v ∈ flags

theorem note_ofFlags (flags : List Flag) (f : Flag) : (ofFlags flags).note f = ofFlags (flags ++ [f]) := by
  cases f <;> simp [ofFlags, note, Flag.config?, Flag.importFile?]

theorem foldl_note (flags : List Flag) : flags.foldl note {} = ofFlags flags := by
  induction flags using List.reverseRecOn with
  | nil => rfl
  | append_singleton flags f ih => rw [List.foldl_append, ih, List.foldl_cons, List.foldl_nil, note_ofFlags]

/-- a flag is noted, whatever the word that it takes -/
theorem read_flag (options : Options) (f : Flag) (words : List String) :
    options.read (f.words ++ words) = (options.note f).read words := by
  cases f with
  | config file => rfl
  | importFile file => rfl
  | json => simp [Flag.words, note, read.eq_def options]
  | verbose => simp [Flag.words, note, read.eq_def options]
  | v => simp [Flag.words, note, read.eq_def options]

/-- any other word is kept -/
theorem read_positional {word : String} (hw : Positional word) (options : Options) (words : List String) :
    options.read (word :: words) = (options.read words).map fun r => (r.1, word :: r.2) := by
  have hlong {flag : String} (hf : "--".toList <+: flag.toList) : word ≠ flag := fun he => hw.long (he ▸ hf)
  have hunknown : ¬"--".toList.isPrefixOf word.toList := mt List.isPrefixOf_iff_prefix.1 hw.long
  rw [read.eq_def]
  dsimp only
  rw [if_neg (hlong (by decide)), if_neg (hlong (by decide)), if_neg (hlong (by decide)),
    if_neg (not_or.2 ⟨hlong (by decide), hw.short⟩), if_neg hunknown]

/-- **Flags are noted in their order, and the other words are kept in theirs.** -/
theorem read_interleaved {flags : List Flag} {others words : List String} (h : Interleaved flags others words)
    (ho : ∀ word ∈ others, Positional word) (options : Options) :
    options.read words = .ok (flags.foldl note options, others) := by
  induction h generalizing options with
  | nil => rfl
  | flag f _ ih => rw [read_flag, ih ho, List.foldl_cons]
  | other word _ ih =>
    obtain ⟨hw, ho⟩ := List.forall_mem_cons.1 ho
    rw [read_positional hw, ih ho]
    rfl

end Options

/-! ## Main result -/

theorem Invocation.ofWords_interleaved {flags : List Flag} {others words : List String}
    (h : Interleaved flags others words) (ho : ∀ word ∈ others, Positional word) (name : String) :
    ofWords (name :: words) =
      (CommandLineAction.ofWords name others).map fun action => ⟨action, .ofFlags flags⟩ := by
  rw [ofWords, Options.read_interleaved h ho, Options.foldl_note]
  cases hr : CommandLineAction.ofWords name others with
  | error e => exact Result.bind_eq_error.2 (.inr ⟨_, rfl, Result.bind_eq_error.2 (.inl hr)⟩)
  | ok action => exact Result.bind_eq_ok.2 ⟨_, rfl, Result.bind_eq_ok.2 ⟨action, hr, rfl⟩⟩

/-- **Flags may stand anywhere.** Take a first word, flags, and other words that do not look like flags.
- However they are interleaved, the other words are what the action gets, in their order, and the options are what the
  flags come to: with `config` or `import` given again, the last file counts. An error is that of the action.
- Two ways to interleave them give the same outcome.
- With `run` there is no error, and the other words are the scripts.
- One way is to have the flags first. -/
theorem flags_may_stand_anywhere (name : String) (flags : List Flag) {others : List String}
    (ho : ∀ word ∈ others, Positional word) :
    (∀ words, Interleaved flags others words → Invocation.ofWords (name :: words) =
      (CommandLineAction.ofWords name others).map fun action => ⟨action, .ofFlags flags⟩) ∧
    (∀ words words', Interleaved flags others words → Interleaved flags others words' →
      Invocation.ofWords (name :: words) = Invocation.ofWords (name :: words')) ∧
    (∀ words, Interleaved flags others words →
      Invocation.ofWords ("run" :: words) = .ok ⟨.run others, .ofFlags flags⟩) ∧
    Interleaved flags others (flags.flatMap Flag.words ++ others) := by
  refine ⟨fun words h => Invocation.ofWords_interleaved h ho name, fun words words' h h' => ?_, fun words h => ?_,
    interleaved_append flags others⟩
  · rw [Invocation.ofWords_interleaved h ho, Invocation.ofWords_interleaved h' ho]
  · rw [Invocation.ofWords_interleaved h ho]
    rfl

/-- two orders of the same words; the word after a flag that takes one is not read as a flag -/
theorem sample_flags_may_stand_anywhere :
    let words := ["set env:a to 1;", "--config", "--json", "-v", "-x", "--config", "b.yaml"]
    let words' := ["--config", "--json", "set env:a to 1;", "-x", "-v", "--config", "b.yaml"]
    Invocation.ofWords ("run" :: words) =
      .ok ⟨.run ["set env:a to 1;", "-x"], { config := some "b.yaml", verbose := true }⟩ ∧
    Invocation.ofWords ("run" :: words') = Invocation.ofWords ("run" :: words) ∧
    Invocation.ofWords ("dump" :: words) = .error .dumpTakesNone := by
  intro words words'
  have h : Interleaved [.config "--json", .v, .config "b.yaml"] ["set env:a to 1;", "-x"] words :=
    .other _ (.flag (.config "--json") (.flag .v (.other _ (.flag (.config "b.yaml") .nil))))
  have h' : Interleaved [.config "--json", .v, .config "b.yaml"] ["set env:a to 1;", "-x"] words' :=
    .flag (.config "--json") (.other _ (.other _ (.flag .v (.flag (.config "b.yaml") .nil))))
  have ho : ∀ word ∈ ["set env:a to 1;", "-x"], Positional word := by
    intro word hword
    simp only [List.mem_cons, List.not_mem_nil, or_false] at hword
    obtain rfl | rfl := hword
    · exact ⟨by decide, by decide⟩
    · exact ⟨by decide, by decide⟩
  obtain ⟨-, hsame, hrun, -⟩ := flags_may_stand_anywhere "run" [.config "--json", .v, .config "b.yaml"] ho
  obtain ⟨hdump, -⟩ := flags_may_stand_anywhere "dump" [.config "--json", .v, .config "b.yaml"] ho
  exact ⟨hrun words h, hsame words' words h' h, hdump words h⟩

end ScopedStore
