import Mathlib.Data.List.Perm.Basic
import ModbusRelay.Proofs.CommandLine.Unusable

/-!
Flags that do not get in each other's way.

`ReadsAs` says as a grammar how a command line is read, one unit after the other, and
`readsAs_iff` that every one is read in just one way. Each flag sets a part of the options: a unit
of another flag leaves that part alone (`part_apply_of_other`), and what a unit of the flag makes
of it depends on nothing else (`part_apply_congr`). So each part comes from the units of its own
flag (`part_foldl`), and how the units of different flags are mixed matters only for the order in
which unusable values are remembered (`flags_are_independent`).
-/

namespace ModbusRelay

/-! ## How a command line is read -/

/-- The switch as it is written. -/
def Switch.text : Switch → String
  | .noControl => "--no-control"
  | .jsonLogs => "--json-logs"

/-- The two ways to call for help. -/
def CallsForHelp (text : String) : Prop := text = "--help" ∨ text = "-h"

/-- The element means nothing by itself. -/
structure Unrecognised (text : String) : Prop where
  value : ∀ flag : ValueFlag, text ≠ flag.text
  switch : ∀ s : Switch, text ≠ s.text
  help : ¬CallsForHelp text

/-- Arguments are read as these units: a flag with the element behind it, whatever that looks like,
a switch, an element that means nothing, or a flag that stands last. A call for help ends the
reading. -/
inductive ReadsAs : List String → List ArgUnit → Prop where
  | nil : ReadsAs [] []
  | value {rest : List String} {us : List ArgUnit} (flag : ValueFlag) (v : String)
      (later : ReadsAs rest us) : ReadsAs (flag.text :: v :: rest) (.value flag v :: us)
  | switch {rest : List String} {us : List ArgUnit} (s : Switch) (later : ReadsAs rest us) :
      ReadsAs (s.text :: rest) (.switch s :: us)
  | unknown {text : String} {rest : List String} {us : List ArgUnit}
      (unrecognised : Unrecognised text) (later : ReadsAs rest us) :
      ReadsAs (text :: rest) (.unknown text :: us)
  | dangling (flag : ValueFlag) : ReadsAs [flag.text] [.dangling flag]
  | help {text : String} (called : CallsForHelp text) (rest : List String) :
      ReadsAs (text :: rest) [.help]

theorem ValueFlag.ofText?_text (flag : ValueFlag) : ofText? flag.text = some flag := by
  cases flag <;> decide

theorem Switch.text_of_ofText? {text : String} {s : Switch} (h : ofText? text = some s) :
    s.text = text := by
  unfold ofText? at h
  split at h <;> cases h <;> rfl

/-- What looks like a flag with a value is not something else. -/
theorem ValueFlag.ofText?_eq_none_iff {text : String} :
    ofText? text = none ↔ ∀ flag : ValueFlag, text ≠ flag.text := by
  constructor
  · rintro h flag rfl
    rw [ofText?_text] at h
    cases h
  · intro h
    cases hflag : ofText? text with
    | none => rfl
    | some flag => exact absurd (text_of_ofText? hflag).symm (h flag)

theorem ValueFlag.ofText?_of_callsForHelp {text : String} (h : CallsForHelp text) :
    ofText? text = none := by
  rcases h with rfl | rfl <;> decide

namespace ArgUnit

theorem single_flag (flag : ValueFlag) : single flag.text = .dangling flag := by
  cases flag <;> decide

theorem single_switch (s : Switch) : single s.text = .switch s := by
  cases s <;> decide

theorem single_of_callsForHelp {text : String} (h : CallsForHelp text) : single text = .help :=
  if_pos h

theorem single_of_unrecognised {text : String} (h : Unrecognised text) :
    single text = .unknown text := by
  have hswitch : Switch.ofText? text = none := by
    cases hs : Switch.ofText? text with
    | none => rfl
    | some s => exact absurd (Switch.text_of_ofText? hs).symm (h.switch s)
  unfold single
  rw [if_neg (show ¬(text = "--help" ∨ text = "-h") from h.help), hswitch,
    ValueFlag.ofText?_eq_none_iff.mpr h.value]

/-- What an element that is no flag with a value can be. -/
theorem single_cases {text : String} (h : ValueFlag.ofText? text = none) :
    CallsForHelp text ∨ (∃ s : Switch, s.text = text) ∨ Unrecognised text := by
  by_cases hhelp : CallsForHelp text
  · exact .inl hhelp
  · by_cases hswitch : ∃ s : Switch, s.text = text
    · exact .inr (.inl hswitch)
    · exact .inr (.inr ⟨ValueFlag.ofText?_eq_none_iff.mp h,
        fun s hs => hswitch ⟨s, hs.symm⟩, hhelp⟩)

end ArgUnit

namespace Options

open ArgUnit

/-- A command line is read by the grammar, and in one way only. -/
theorem readsAs_iff {args : List String} {us : List ArgUnit} : ReadsAs args us ↔ read args = us := by
  constructor
  · intro h
    induction h with
    | nil => rfl
    | value flag v _ ih => rw [read_value flag.ofText?_text, ih]
    | switch s _ ih =>
      have hnone : ValueFlag.ofText? s.text = none := by cases s <;> decide
      rw [read_single hnone (by simp [single_switch]), single_switch, ih]
    | unknown unrecognised _ ih =>
      have hsingle := single_of_unrecognised unrecognised
      rw [read_single (ValueFlag.ofText?_eq_none_iff.mpr unrecognised.value) (by simp [hsingle]),
        hsingle, ih]
    | dangling flag => rw [read_last, single_flag]
    | help called rest =>
      exact read_help (ValueFlag.ofText?_of_callsForHelp called) (single_of_callsForHelp called) rest
  · rintro rfl
    -- As the arguments are taken off: none, the last one, a flag with what is behind it, any other.
    induction args using split.induct with
    | case1 => exact .nil
    | case2 text =>
      rw [read_last]
      cases hflag : ValueFlag.ofText? text with
      | some flag =>
        rw [← ValueFlag.text_of_ofText? hflag, single_flag]
        exact .dangling flag
      | none =>
        rcases single_cases hflag with hhelp | ⟨s, rfl⟩ | hnone
        · rw [single_of_callsForHelp hhelp]
          exact .help hhelp []
        · rw [single_switch]
          exact .switch s .nil
        · rw [single_of_unrecognised hnone]
          exact .unknown hnone .nil
    | case3 text next rest flag hflag ih =>
      rw [read_value hflag, ← ValueFlag.text_of_ofText? hflag]
      exact .value flag next ih
    | case4 text next rest hflag ih =>
      rcases single_cases hflag with hhelp | ⟨s, rfl⟩ | hnone
      · rw [read_help hflag (single_of_callsForHelp hhelp)]
        exact .help hhelp _
      · rw [read_single hflag (by simp [single_switch]), single_switch]
        exact .switch s ih
      · have hsingle := single_of_unrecognised hnone
        rw [read_single hflag (by simp [hsingle]), hsingle]
        exact .unknown hnone ih

end Options

/-! ## The parts of the options -/

/-- The flags that set something. -/
inductive Flag where
  | value (flag : ValueFlag)
  | switch (s : Switch)
  deriving DecidableEq

/-- The flag that a unit sets. A flag without a value sets nothing, and neither does help. -/
def ArgUnit.flag? : ArgUnit → Option Flag
  | .value flag _ => some (.value flag)
  | .switch s => some (.switch s)
  | .help | .dangling _ | .unknown _ => none

/-- The units of one flag, in order. -/
def ArgUnit.ofFlag (k : Flag) (us : List ArgUnit) : List ArgUnit :=
  us.filter (·.flag? = some k)

namespace Options

/-- The part of the options that a flag sets; all else is as if nothing had been set. -/
def part (k : Flag) (o : Options) : Options :=
  match k with
  | .value .runSeconds => { runSeconds := o.runSeconds }
  | .value .listen => { listen := o.listen }
  | .value .target => { target := o.target }
  | .value .controlAddress => { controlAddress := o.controlAddress }
  | .value .metricsAddress => { metricsAddress := o.metricsAddress }
  | .value .connectTimeout => { connectTimeout := o.connectTimeout }
  | .value .requestTimeout => { requestTimeout := o.requestTimeout }
  | .value .maxPending => { maxPending := o.maxPending }
  | .value .duplicatePolicy => { duplicatePolicy := o.duplicatePolicy }
  | .switch .noControl => { controlEnabled := o.controlEnabled }
  | .switch .jsonLogs => { jsonLogs := o.jsonLogs }

/-- Options that agree in all parts and on the call for help differ at most in what was rejected. -/
theorem eq_of_part {o o' : Options} (parts : ∀ k, part k o = part k o')
    (help : o.showHelp = o'.showHelp) : { o with rejected := [] } = { o' with rejected := [] } := by
  have hfield {α : Type} (field : Options → α) (k : Flag) (h : ∀ o, field (part k o) = field o) :
      field o = field o' := by
    rw [← h o, parts k, h o']
  simp only [Options.mk.injEq, and_true]
  exact ⟨help, hfield runSeconds (.value .runSeconds) fun _ => rfl,
    hfield listen (.value .listen) fun _ => rfl, hfield target (.value .target) fun _ => rfl,
    hfield controlAddress (.value .controlAddress) fun _ => rfl,
    hfield controlEnabled (.switch .noControl) fun _ => rfl,
    hfield jsonLogs (.switch .jsonLogs) fun _ => rfl,
    hfield metricsAddress (.value .metricsAddress) fun _ => rfl,
    hfield connectTimeout (.value .connectTimeout) fun _ => rfl,
    hfield requestTimeout (.value .requestTimeout) fun _ => rfl,
    hfield maxPending (.value .maxPending) fun _ => rfl,
    hfield duplicatePolicy (.value .duplicatePolicy) fun _ => rfl⟩

/-- What is rejected belongs to no part. -/
@[simp]
theorem part_reject (k : Flag) (o : Options) (flag : ValueFlag) (v : String) :
    part k (o.reject flag v) = part k o := by
  cases k with
  | value f => cases f <;> rfl
  | switch s => cases s <;> rfl

/-- A unit of another flag, or of none, leaves a part as it is. -/
theorem part_apply_of_other {k : Flag} {u : ArgUnit} (h : u.flag? ≠ some k) (o : Options) :
    part k (o.apply u) = part k o := by
  cases u with
  | value flag v =>
    have hflag : k ≠ .value flag := fun heq => h (congrArg some heq.symm)
    cases flag with
    | listen | target | controlAddress | metricsAddress =>
      rcases k with (_ | _) | (_ | _) <;> first | rfl | exact absurd rfl hflag
    | runSeconds =>
      simp only [apply, setValue]
      split
      · rcases k with (_ | _) | (_ | _) <;> first | rfl | exact absurd rfl hflag
      -- A bad value is rejected and also takes back the time that was set before.
      · rw [part_reject]
        rcases k with (_ | _) | (_ | _) <;> first | rfl | exact absurd rfl hflag
    | connectTimeout | requestTimeout | maxPending | duplicatePolicy =>
      simp only [apply, setValue]
      split
      · rcases k with (_ | _) | (_ | _) <;> first | rfl | exact absurd rfl hflag
      · exact part_reject k o _ v
  | switch s =>
    have hswitch : k ≠ .switch s := fun heq => h (congrArg some heq.symm)
    cases s <;> rcases k with (_ | _) | (_ | _) <;> first | rfl | exact absurd rfl hswitch
  | help | dangling | unknown =>
    rcases k with (_ | _) | (_ | _) <;> rfl

/-- What a unit makes of the part of its own flag depends on that part alone. -/
theorem part_apply_congr {k : Flag} {u : ArgUnit} (h : u.flag? = some k) {o o' : Options}
    (same : part k o = part k o') : part k (o.apply u) = part k (o'.apply u) := by
  cases u with
  | value flag v =>
    cases h
    cases flag with
    | listen | target | controlAddress | metricsAddress => rfl
    | runSeconds => simp only [apply, setValue]; split <;> rfl
    | connectTimeout | requestTimeout | maxPending | duplicatePolicy =>
      simp only [apply, setValue]
      split
      · rfl
      · simpa only [part_reject] using same
  | switch s =>
    cases h
    cases s <;> rfl
  | help | dangling | unknown => cases h

/-- Each part of the options is what the units of its flag make of it. -/
theorem part_foldl {k : Flag} (us : List ArgUnit) {o o' : Options} (same : part k o = part k o') :
    part k (us.foldl apply o) = part k ((ArgUnit.ofFlag k us).foldl apply o') := by
  induction us generalizing o o' with
  | nil => exact same
  | cons u us ih =>
    by_cases hu : u.flag? = some k
    · have hown : ArgUnit.ofFlag k (u :: us) = u :: ArgUnit.ofFlag k us :=
        List.filter_cons_of_pos (by simpa using hu)
      rw [hown]
      exact ih (part_apply_congr hu same)
    · have hother : ArgUnit.ofFlag k (u :: us) = ArgUnit.ofFlag k us :=
        List.filter_cons_of_neg (by simpa using hu)
      rw [hother]
      exact ih ((part_apply_of_other hu o).trans same)

theorem showHelp_apply (o : Options) (u : ArgUnit) :
    (o.apply u).showHelp = true ↔ o.showHelp = true ∨ .help = u := by
  cases u with
  | value flag v =>
    have hvalue : (o.apply (.value flag v)).showHelp = o.showHelp := by
      cases flag with
      | listen | target | controlAddress | metricsAddress => rfl
      | _ =>
        simp only [apply, setValue]
        split <;> rfl
    simp [hvalue]
  | switch s => cases s <;> simp [apply]
  | help | dangling | unknown => simp [apply]

/-- Help is shown just when it is called for. -/
theorem showHelp_after (us : List ArgUnit) : (after us).showHelp = true ↔ .help ∈ us := by
  have hfoldl (o : Options) :
      (us.foldl apply o).showHelp = true ↔ o.showHelp = true ∨ .help ∈ us := by
    induction us generalizing o with
    | nil => simp
    | cons u us ih => rw [List.foldl_cons, ih, showHelp_apply, List.mem_cons, or_assoc]
  rw [after, hfoldl]
  simp

/-! ## What is rejected -/

theorem rejected_after (us : List ArgUnit) : (after us).rejected = (unusable us).map rejection := by
  rw [(after_eq_withRejected us).1]
  rfl

/-- The unusable values of one flag are among the units of that flag. -/
theorem filter_unusable (flag : ValueFlag) (us : List ArgUnit) :
    (unusable us).filter (·.1 = flag) = unusable (ArgUnit.ofFlag (.value flag) us) := by
  unfold unusable ArgUnit.ofFlag
  rw [List.filter_filterMap, List.filterMap_filter]
  congr 1
  funext u
  cases u with
  | value f v =>
    simp only [ArgUnit.unusable?, ArgUnit.flag?, Option.some.injEq, Flag.value.injEq]
    by_cases hflag : f = flag
    · subst hflag
      split <;> simp
    · split <;> simp [hflag]
  | _ => rfl

/-- Pairs that are the same for each flag are the same but for their order. -/
theorem perm_of_filter_eq {ps ps' : List (ValueFlag × String)}
    (h : ∀ flag, ps.filter (·.1 = flag) = ps'.filter (·.1 = flag)) : ps.Perm ps' := by
  rw [List.perm_iff_count]
  intro p
  have hcount (qs : List (ValueFlag × String)) :
      (qs.filter (·.1 = p.1)).count p = qs.count p := List.count_filter (by simp)
  rw [← hcount ps, ← hcount ps', h]

/-- **Flags are independent of each other.** Let two command lines be read as units, up to the first
call for help, which both have or neither, and let the units of each flag be the same in both and in
the same order. Then they set the same options, whatever stands between these units and however
they are mixed. What is rejected are the same values as well, for each flag in the same order; only
values of different flags may be in another order. -/
theorem flags_are_independent {args args' : List String} {us us' : List ArgUnit}
    (hread : ReadsAs (args.drop 1) us) (hread' : ReadsAs (args'.drop 1) us')
    (hhelp : .help ∈ us ↔ .help ∈ us')
    (hflags : ∀ k, ArgUnit.ofFlag k us = ArgUnit.ofFlag k us') :
    { parse args with rejected := [] } = { parse args' with rejected := [] } ∧
      (parse args).rejected = (unusable us).map rejection ∧
      (parse args').rejected = (unusable us').map rejection ∧
      (unusable us).Perm (unusable us') ∧
      ∀ flag, (unusable us).filter (·.1 = flag) = (unusable us').filter (·.1 = flag) := by
  have hparse {args : List String} {us : List ArgUnit} (h : ReadsAs (args.drop 1) us) :
      parse args = after us := congrArg after (readsAs_iff.mp h)
  have hrejected (flag : ValueFlag) :
      (unusable us).filter (·.1 = flag) = (unusable us').filter (·.1 = flag) := by
    rw [filter_unusable, filter_unusable, hflags]
  rw [hparse hread, hparse hread']
  refine ⟨eq_of_part (fun k => ?_) ?_, rejected_after us, rejected_after us',
    perm_of_filter_eq hrejected, hrejected⟩
  · calc part k (after us)
        = part k (after (ArgUnit.ofFlag k us)) := part_foldl us rfl
      _ = part k (after (ArgUnit.ofFlag k us')) := by rw [hflags]
      _ = part k (after us') := (part_foldl us' rfl).symm
  · rw [Bool.eq_iff_iff, showHelp_after, showHelp_after, hhelp]

/-- Two flags have values that look like flags, two have unusable values, one element means nothing,
and nothing after the call for help is read. -/
def mixedOneWay : List String :=
  [ "modbus-proxy", "--max-pending", "lots", "--listen", "--no-control", "--json-logs", "what",
    "--duplicate-policy", "-h", "--max-pending", "5", "--help", "--no-control" ]

/-- The same units of each flag in another order. -/
def mixedAnotherWay : List String :=
  [ "modbus-proxy", "--duplicate-policy", "-h", "--json-logs", "--max-pending", "lots",
    "--max-pending", "5", "--listen", "--no-control", "-h" ]

/-- Both set the same options, and reject the same two values in another order. -/
theorem same_options_of_mixed :
    ReadsAs (mixedOneWay.drop 1) (units mixedOneWay) ∧
      ReadsAs (mixedAnotherWay.drop 1) (units mixedAnotherWay) ∧
      (.help ∈ units mixedOneWay ∧ .help ∈ units mixedAnotherWay) ∧
      { parse mixedOneWay with rejected := [] } = { parse mixedAnotherWay with rejected := [] } ∧
      (parse mixedOneWay).rejected = ["--max-pending lots", "--duplicate-policy -h"] ∧
      (parse mixedAnotherWay).rejected = ["--duplicate-policy -h", "--max-pending lots"] := by
  have hread : ReadsAs (mixedOneWay.drop 1) (units mixedOneWay) := readsAs_iff.mpr rfl
  have hread' : ReadsAs (mixedAnotherWay.drop 1) (units mixedAnotherWay) := readsAs_iff.mpr rfl
  have hhelp : .help ∈ units mixedOneWay := by decide +kernel
  have hhelp' : .help ∈ units mixedAnotherWay := by decide +kernel
  have hflags (k : Flag) :
      ArgUnit.ofFlag k (units mixedOneWay) = ArgUnit.ofFlag k (units mixedAnotherWay) := by
    rcases k with (_ | _) | (_ | _) <;> decide +kernel
  obtain ⟨hsame, hrejected, hrejected', -⟩ :=
    flags_are_independent hread hread' (iff_of_true hhelp hhelp') hflags
  refine ⟨hread, hread', ⟨hhelp, hhelp'⟩, hsame, hrejected.trans ?_, hrejected'.trans ?_⟩
  · decide +kernel
  · decide +kernel

end Options

end ModbusRelay
