import Mathlib.Data.List.Induction
import ModbusRelay.CommandLine.Options

/-!
Values that cannot be used.

`usable` says which values a flag can use, without regard to how it is set. The pairs of a flag and
an unusable value are just what a command line is said to have rejected, and `withoutRejected` is
the command line from which they have been deleted (`pairsOut_withoutUnusable`). Its units are the
usable ones (`read_withoutUnusable`), and the options that they set differ in one place only: a run
time that cannot be used is not ignored, but takes back the one before it
(`after_eq_withRejected`).
-/

namespace ModbusRelay

namespace ValueFlag

/-- Can the flag use the value? -/
def usable : ValueFlag → String → Bool
  | .listen, _ | .target, _ | .controlAddress, _ | .metricsAddress, _ => true
  | .runSeconds, v | .connectTimeout, v | .requestTimeout, v | .maxPending, v =>
    (readNat? maxWord64 v).isSome
  | .duplicatePolicy, v => (DuplicatePolicy.parse? v).isSome

/-- The flag as it is written. -/
theorem text_of_ofText? {text : String} {flag : ValueFlag} (h : ofText? text = some flag) :
    flag.text = text := by
  have htext := List.find?_some h
  exact eq_of_beq htext

end ValueFlag

namespace ArgUnit

/-- The flag and the value of a unit that cannot be used. -/
def unusable? : ArgUnit → Option (ValueFlag × String)
  | .value flag v => if flag.usable v then none else some (flag, v)
  | _ => none

/-- Can the unit be used? Only a value may be in the way. -/
def isUsable (u : ArgUnit) : Bool := u.unusable?.isNone

/-- The run time that a unit gives. -/
def runTime? : ArgUnit → Option String
  | .value .runSeconds v => some v
  | _ => none

theorem eq_of_runTime? {u : ArgUnit} {v : String} (h : u.runTime? = some v) :
    u = .value .runSeconds v := by
  unfold runTime? at h
  split at h
  · cases h
    rfl
  · cases h

/-- The arguments without the flags whose values cannot be used, and without these values. Nothing
is read after a call for help, so nothing is deleted there. -/
def withoutUnusable : List String → List String
  | [] => []
  | [text] => [text]
  | text :: next :: rest =>
    match ValueFlag.ofText? text with
    | some flag =>
      if flag.usable next then text :: next :: withoutUnusable rest else withoutUnusable rest
    | none =>
      if single text = .help then text :: next :: rest else text :: withoutUnusable (next :: rest)

section Equations

variable {text : String} {flag : ValueFlag}

theorem withoutUnusable_of_usable (h : ValueFlag.ofText? text = some flag) {v : String}
    (hv : flag.usable v = true) (rest : List String) :
    withoutUnusable (text :: v :: rest) = text :: v :: withoutUnusable rest := by
  rw [withoutUnusable, h]
  exact if_pos hv

theorem withoutUnusable_of_unusable (h : ValueFlag.ofText? text = some flag) {v : String}
    (hv : ¬flag.usable v = true) (rest : List String) :
    withoutUnusable (text :: v :: rest) = withoutUnusable rest := by
  rw [withoutUnusable, h]
  exact if_neg hv

theorem withoutUnusable_of_help (h : ValueFlag.ofText? text = none) (hhelp : single text = .help)
    (next : String) (rest : List String) :
    withoutUnusable (text :: next :: rest) = text :: next :: rest := by
  rw [withoutUnusable, h]
  exact if_pos hhelp

theorem withoutUnusable_of_single (h : ValueFlag.ofText? text = none)
    (hhelp : single text ≠ .help) (next : String) (rest : List String) :
    withoutUnusable (text :: next :: rest) = text :: withoutUnusable (next :: rest) := by
  rw [withoutUnusable, h]
  exact if_neg hhelp

end Equations

/-- What takes no value is a unit by itself. -/
theorem split_cons_of_none {text : String} (h : ValueFlag.ofText? text = none)
    (rest : List String) : split (text :: rest) = single text :: split rest := by
  cases rest with
  | nil => rfl
  | cons next rest => rw [split, h]

theorem unusable?_single (text : String) : (single text).unusable? = none := by
  unfold single
  split
  · rfl
  · split <;> rfl

@[simp]
theorem isUsable_single (text : String) : (single text).isUsable = true := by
  rw [isUsable, unusable?_single]
  rfl

@[simp]
theorem isUsable_value (flag : ValueFlag) (v : String) :
    (value flag v).isUsable = flag.usable v := by
  cases h : flag.usable v <;> simp [isUsable, unusable?, h]

end ArgUnit

/-- Pairs of neighbours are taken out of a list, in order. -/
inductive PairsOut : List (String × String) → List String → List String → Prop where
  | nil : PairsOut [] [] []
  | kept {pairs : List (String × String)} {xs ys : List String} (x : String)
      (rest : PairsOut pairs xs ys) : PairsOut pairs (x :: xs) (x :: ys)
  | out {pairs : List (String × String)} {xs ys : List String} (x y : String)
      (rest : PairsOut pairs xs ys) : PairsOut ((x, y) :: pairs) (x :: y :: xs) ys

theorem PairsOut.refl (xs : List String) : PairsOut [] xs xs := by
  induction xs with
  | nil => exact .nil
  | cons x xs ih => exact .kept x ih

namespace Options

/-- The units of a list of arguments that are read. -/
def read (args : List String) : List ArgUnit := effective (ArgUnit.split args)

/-- The units of a command line that are read; its first element is not. -/
def units (args : List String) : List ArgUnit := read (args.drop 1)

/-- The flags with unusable values among some units. -/
def unusable (us : List ArgUnit) : List (ValueFlag × String) := us.filterMap ArgUnit.unusable?

/-- The command line with all that is rejected deleted. -/
def withoutRejected (args : List String) : List String :=
  args.take 1 ++ ArgUnit.withoutUnusable (args.drop 1)

theorem unusable_single (text : String) (us : List ArgUnit) :
    unusable (ArgUnit.single text :: us) = unusable us :=
  List.filterMap_cons_none (ArgUnit.unusable?_single text)

theorem unusable_of_usable {flag : ValueFlag} {v : String} (h : flag.usable v = true)
    (us : List ArgUnit) : unusable (.value flag v :: us) = unusable us :=
  List.filterMap_cons_none (if_pos h)

theorem unusable_of_unusable {flag : ValueFlag} {v : String} (h : ¬flag.usable v = true)
    (us : List ArgUnit) : unusable (.value flag v :: us) = (flag, v) :: unusable us :=
  List.filterMap_cons_some (if_neg h)

/-! ## The units that are left -/

theorem effective_cons {u : ArgUnit} (h : u ≠ .help) (us : List ArgUnit) :
    effective (u :: us) = u :: effective us := by
  cases u with
  | help => exact absurd rfl h
  | _ => rfl

/-- A flag is read with the value behind it. -/
theorem read_value {text : String} {flag : ValueFlag} (h : ValueFlag.ofText? text = some flag)
    (next : String) (rest : List String) :
    read (text :: next :: rest) = .value flag next :: read rest := by
  unfold read
  rw [ArgUnit.split, h]
  rfl

/-- What takes no value is read by itself. -/
theorem read_single {text : String} (h : ValueFlag.ofText? text = none)
    (hhelp : ArgUnit.single text ≠ .help) (rest : List String) :
    read (text :: rest) = ArgUnit.single text :: read rest := by
  unfold read
  rw [ArgUnit.split_cons_of_none h, effective_cons hhelp]

/-- Nothing is read after a call for help. -/
theorem read_help {text : String} (h : ValueFlag.ofText? text = none)
    (hhelp : ArgUnit.single text = .help) (rest : List String) : read (text :: rest) = [.help] := by
  unfold read
  rw [ArgUnit.split_cons_of_none h, hhelp]
  rfl

/-- An element that stands last is read by itself, whatever it is. -/
theorem read_last (text : String) : read [text] = [ArgUnit.single text] := by
  show effective [ArgUnit.single text] = _
  cases ArgUnit.single text <;> rfl

/-- Deleting the unusable pairs deletes their units and leaves the others. -/
theorem read_withoutUnusable (args : List String) :
    read (ArgUnit.withoutUnusable args) = (read args).filter (·.isUsable) := by
  induction args using ArgUnit.withoutUnusable.induct with
  | case1 => rfl
  | case2 text =>
    rw [ArgUnit.withoutUnusable, read_last, List.filter_cons_of_pos (ArgUnit.isUsable_single text)]
    rfl
  | case3 text next rest flag hflag husable ih =>
    rw [ArgUnit.withoutUnusable_of_usable hflag husable, read_value hflag, read_value hflag, ih,
      List.filter_cons_of_pos (by simpa using husable)]
  | case4 text next rest flag hflag husable ih =>
    rw [ArgUnit.withoutUnusable_of_unusable hflag husable, read_value hflag, ih,
      List.filter_cons_of_neg (by simpa using husable)]
  | case5 text next rest hflag hhelp =>
    rw [ArgUnit.withoutUnusable_of_help hflag hhelp, read_help hflag hhelp]
    rfl
  | case6 text next rest hflag hhelp ih =>
    rw [ArgUnit.withoutUnusable_of_single hflag hhelp, read_single hflag hhelp,
      read_single hflag hhelp, ih, List.filter_cons_of_pos (ArgUnit.isUsable_single text)]

/-- What is deleted are the flags with unusable values, each from where it is read. -/
theorem pairsOut_withoutUnusable (args : List String) :
    PairsOut ((unusable (read args)).map fun x => (x.1.text, x.2)) args
      (ArgUnit.withoutUnusable args) := by
  induction args using ArgUnit.withoutUnusable.induct with
  | case1 => exact .nil
  | case2 text =>
    rw [read_last, unusable_single]
    exact .refl _
  | case3 text next rest flag hflag husable ih =>
    rw [ArgUnit.withoutUnusable_of_usable hflag husable, read_value hflag,
      unusable_of_usable husable]
    exact .kept text (.kept next ih)
  | case4 text next rest flag hflag husable ih =>
    rw [ArgUnit.withoutUnusable_of_unusable hflag husable, read_value hflag,
      unusable_of_unusable husable, List.map_cons, ValueFlag.text_of_ofText? hflag]
    exact .out text next ih
  | case5 text next rest hflag hhelp =>
    rw [ArgUnit.withoutUnusable_of_help hflag hhelp, read_help hflag hhelp]
    exact .refl _
  | case6 text next rest hflag hhelp ih =>
    rw [ArgUnit.withoutUnusable_of_single hflag hhelp, read_single hflag hhelp, unusable_single]
    exact .kept text ih

/-! ## The options that are set -/

/-- The text by which a pair is remembered. -/
def rejection (x : ValueFlag × String) : String := x.1.text ++ " " ++ x.2

/-- The options after some units. -/
def after (us : List ArgUnit) : Options := us.foldl apply {}

theorem after_snoc (us : List ArgUnit) (u : ArgUnit) :
    after (us ++ [u]) = (after us).apply u := by
  simp [after]

/-- The last run time among some units. -/
def lastRunTime? (us : List ArgUnit) : Option String :=
  (us.filterMap ArgUnit.runTime?).getLast?

/-- Is the last run time, if there is one, one that can be used? -/
def runTimeUsable (us : List ArgUnit) : Bool :=
  (lastRunTime? us).all (ValueFlag.runSeconds.usable ·)

/-- A unit that gives no run time leaves it open whether the last one can be used. -/
theorem runTimeUsable_snoc_of_none (us : List ArgUnit) {u : ArgUnit} (h : u.runTime? = none) :
    runTimeUsable (us ++ [u]) = runTimeUsable us := by
  simp [runTimeUsable, lastRunTime?, List.filterMap_append, h]

theorem runTimeUsable_snoc (us : List ArgUnit) (v : String) :
    runTimeUsable (us ++ [.value .runSeconds v]) = ValueFlag.runSeconds.usable v := by
  simp [runTimeUsable, lastRunTime?, List.filterMap_append, ArgUnit.runTime?]

/-- A unit that can be used, and is no run time, has no part in what is rejected and how long the
run takes. -/
theorem apply_of_usable {u : ArgUnit} (husable : u.isUsable = true) (htime : u.runTime? = none)
    (o : Options) (rejected : List String) (runSeconds : Option Nat) :
    ({ o with rejected, runSeconds }).apply u = { o.apply u with rejected, runSeconds } := by
  cases u with
  | value flag v =>
    cases flag with
    | runSeconds => cases htime
    | listen | target | controlAddress | metricsAddress => rfl
    | connectTimeout | requestTimeout | maxPending =>
      obtain ⟨n, hn⟩ : ∃ n, readNat? maxWord64 v = some n := by
        simpa [ValueFlag.usable, Option.isSome_iff_exists] using husable
      simp [apply, setValue, hn]
    | duplicatePolicy =>
      obtain ⟨policy, hpolicy⟩ : ∃ policy, DuplicatePolicy.parse? v = some policy := by
        simpa [ValueFlag.usable, Option.isSome_iff_exists] using husable
      simp [apply, setValue, hpolicy]
  | switch s => cases s <;> rfl
  | help | dangling | unknown => rfl

theorem kept_of_usable {u : ArgUnit} (husable : u.isUsable = true) (htime : u.runTime? = none)
    (o : Options) :
    (o.apply u).rejected = o.rejected ∧ (o.apply u).runSeconds = o.runSeconds := by
  have happly : o.apply u = _ := apply_of_usable husable htime o o.rejected o.runSeconds
  exact ⟨congrArg (·.rejected) happly, congrArg (·.runSeconds) happly⟩

/-- A usable run time takes the place of the one before it. -/
theorem apply_runTime_of_usable {v : String} (h : ValueFlag.runSeconds.usable v = true)
    (o : Options) (rejected : List String) (runSeconds : Option Nat) :
    ({ o with rejected, runSeconds }).apply (.value .runSeconds v) =
      { o.apply (.value .runSeconds v) with rejected } := by
  obtain ⟨n, hn⟩ : ∃ n, readNat? maxWord64 v = some n :=
    Option.isSome_iff_exists.mp h
  simp [apply, setValue, hn]

theorem rejected_apply_of_usable {u : ArgUnit} (husable : u.isUsable = true) (o : Options) :
    (o.apply u).rejected = o.rejected := by
  cases htime : u.runTime? with
  | none => exact (kept_of_usable husable htime o).1
  | some v =>
    obtain rfl := ArgUnit.eq_of_runTime? htime
    have happly : o.apply (.value .runSeconds v) = _ :=
      apply_runTime_of_usable (by simpa using husable) o o.rejected o.runSeconds
    exact congrArg (·.rejected) happly

/-- An unusable value is remembered, and nothing else happens, except to the run time. -/
theorem apply_of_unusable {flag : ValueFlag} {v : String} (h : flag.usable v = false)
    (o : Options) :
    o.apply (.value flag v) =
      { o with
        rejected := o.rejected ++ [rejection (flag, v)]
        runSeconds := if flag = .runSeconds then none else o.runSeconds } := by
  cases flag with
  | listen | target | controlAddress | metricsAddress => cases h
  | runSeconds | connectTimeout | requestTimeout | maxPending | duplicatePolicy =>
    simp only [ValueFlag.usable, Option.isSome_eq_false_iff, Option.isNone_iff_eq_none] at h
    simp [apply, setValue, h, reject, rejection]

/-- Options without unusable values, as they become with them: what is rejected is remembered, and
the run time is as the last one has it. -/
def withRejected (o : Options) (us : List ArgUnit) : Options :=
  { o with
    rejected := (unusable us).map rejection
    runSeconds := if runTimeUsable us then o.runSeconds else none }

theorem apply_withRejected_of_usable {u : ArgUnit} (husable : u.isUsable = true) (o : Options)
    (us : List ArgUnit) : (o.withRejected us).apply u = (o.apply u).withRejected (us ++ [u]) := by
  have hunusable : unusable (us ++ [u]) = unusable us := by
    have hnone := Option.isNone_iff_eq_none.mp husable
    simp [unusable, hnone]
  unfold withRejected
  rw [hunusable]
  cases htime : u.runTime? with
  | none =>
    rw [apply_of_usable husable htime, runTimeUsable_snoc_of_none us htime,
      (kept_of_usable husable htime o).2]
  | some v =>
    obtain rfl := ArgUnit.eq_of_runTime? htime
    have hv : ValueFlag.runSeconds.usable v = true := by simpa using husable
    rw [apply_runTime_of_usable hv, runTimeUsable_snoc, if_pos hv]

theorem apply_withRejected_of_unusable {flag : ValueFlag} {v : String}
    (h : flag.usable v = false) (o : Options) (us : List ArgUnit) :
    (o.withRejected us).apply (.value flag v) = o.withRejected (us ++ [.value flag v]) := by
  have hunusable : unusable (us ++ [.value flag v]) = unusable us ++ [(flag, v)] := by
    simp [unusable, ArgUnit.unusable?, h]
  rw [apply_of_unusable h]
  simp only [withRejected, hunusable, List.map_append, List.map_cons, List.map_nil]
  by_cases hflag : flag = .runSeconds
  · subst hflag
    rw [if_pos rfl, runTimeUsable_snoc, h]
    rfl
  · have htime : (ArgUnit.value flag v).runTime? = none := by
      cases flag <;> first | rfl | exact absurd rfl hflag
    rw [if_neg hflag, runTimeUsable_snoc_of_none us htime]

/-- What units set is what the usable ones among them set, apart from the run time, and what is
rejected are the others. -/
theorem after_eq_withRejected (us : List ArgUnit) :
    after us = (after (us.filter (·.isUsable))).withRejected us ∧
      (after (us.filter (·.isUsable))).rejected = [] := by
  -- the last run time decides, so the induction is from the end
  induction us using List.reverseRecOn with
  | nil => exact ⟨rfl, rfl⟩
  | append_singleton us u ih =>
    obtain ⟨heq, hnone⟩ := ih
    rw [after_snoc, heq, List.filter_append]
    cases husable : u.isUsable with
    | true =>
      rw [List.filter_cons_of_pos husable, List.filter_nil, after_snoc]
      exact ⟨apply_withRejected_of_usable husable _ us,
        (rejected_apply_of_usable husable _).trans hnone⟩
    | false =>
      rw [List.filter_cons_of_neg (by simp [husable]), List.filter_nil, List.append_nil]
      refine ⟨?_, hnone⟩
      cases u with
      | value flag v => exact apply_withRejected_of_unusable (by simpa using husable) _ us
      | _ => cases husable

/-- **Unusable values on the command line.** What is recorded as rejected are the flags with values
that they cannot use, in order; these pairs, and nothing else, are deleted in `withoutRejected`, and
what is left sets the same options, with nothing rejected. There is one exception: if the last run
time that is given cannot be used, there is none, even if a usable one was given before. -/
theorem parse_withoutRejected (args : List String) :
    PairsOut ((unusable (units args)).map fun x => (x.1.text, x.2)) args (withoutRejected args) ∧
      (parse args).rejected = (unusable (units args)).map rejection ∧
      (parse (withoutRejected args)).rejected = [] ∧
      { parse args with rejected := [] } =
        { parse (withoutRejected args) with
          runSeconds :=
            if runTimeUsable (units args) then (parse (withoutRejected args)).runSeconds
            else none } := by
  have hdrop : (withoutRejected args).drop 1 = ArgUnit.withoutUnusable (args.drop 1) := by
    cases args <;> rfl
  have hparse : parse (withoutRejected args) = after ((units args).filter (·.isUsable)) := by
    rw [parse, hdrop]
    exact congrArg after (read_withoutUnusable _)
  have hall : parse args = after (units args) := rfl
  obtain ⟨heq, hnone⟩ := after_eq_withRejected (units args)
  refine ⟨?_, ?_, ?_, ?_⟩
  · cases args with
    | nil => exact .nil
    | cons name rest => exact .kept name (pairsOut_withoutUnusable rest)
  · rw [hall, heq]
    rfl
  · rw [hparse, hnone]
  · rw [hall, hparse, heq, withRejected]
    generalize after ((units args).filter (·.isUsable)) = o at hnone ⊢
    cases o
    cases hnone
    rfl

/-- A run time that can be used, and then one that cannot. -/
def twoRunTimes : List String := ["modbus-proxy", "--run-seconds", "3", "--run-seconds", "x"]

/-- The second run time is rejected, and takes back the first. -/
theorem runSeconds_taken_back :
    (parse twoRunTimes).rejected = ["--run-seconds x"] ∧
      withoutRejected twoRunTimes = ["modbus-proxy", "--run-seconds", "3"] ∧
      (parse twoRunTimes).runSeconds = none ∧
      (parse (withoutRejected twoRunTimes)).runSeconds = some 3 ∧
      { parse twoRunTimes with rejected := [] } ≠ parse (withoutRejected twoRunTimes) := by
  decide +kernel

end Options

end ModbusRelay
