import ModbusRelay.Address.Socket

/-!
The host and the port that an address text was put together from.

A host is any text: there may be colons, brackets and digits in it, or nothing at all. The colon in
front of the port is found all the same, because no digit of a port is one, so that it is the last
(`aroundLastColon_joinHostPort`). The brackets around the host are found because a host that has a
bracket in front already gets none: two hosts come to look the same only if one of them is the other
in brackets (`hostPart_eq_iff`). `splitHostPort` goes back from the address to the two parts, for
every host that does not start with a bracket (`address_comes_apart`).
-/

namespace ModbusRelay

/-! ## The last colon -/

/-- What stands before and after the last colon of a text. -/
def AroundLastColon (text before after : String) : Prop :=
  text = before ++ ":" ++ after ∧ ':' ∉ after.toList

theorem splitLastColon_eq_none_iff {cs : List Char} : splitLastColon cs = none ↔ ':' ∉ cs := by
  induction cs with
  | nil => simp [splitLastColon]
  | cons c cs ih =>
    rw [List.mem_cons, not_or, ← ih, splitLastColon]
    cases splitLastColon cs with
    | some parts => simp
    | none =>
      by_cases hc : c = ':'
      · simp [hc]
      · simp [hc, Ne.symm hc]

theorem splitLastColon_append {after : List Char} (h : ':' ∉ after) (before : List Char) :
    splitLastColon (before ++ ':' :: after) = some (before, after) := by
  induction before with
  | nil =>
    rw [List.nil_append, splitLastColon, splitLastColon_eq_none_iff.mpr h]
    rfl
  | cons c before ih =>
    rw [List.cons_append, splitLastColon, ih]

theorem splitLastColon_eq_some_iff {cs before after : List Char} :
    splitLastColon cs = some (before, after) ↔ cs = before ++ ':' :: after ∧ ':' ∉ after := by
  constructor
  · intro h
    induction cs generalizing before with
    | nil => cases h
    | cons c cs ih =>
      rw [splitLastColon] at h
      split at h
      · next hcs =>
        cases h
        obtain ⟨rfl, hafter⟩ := ih hcs
        exact ⟨rfl, hafter⟩
      · next hcs =>
        split at h
        · next hc =>
          cases h
          exact ⟨congrArg (· :: _) hc, splitLastColon_eq_none_iff.mp hcs⟩
        · cases h
  · rintro ⟨rfl, hafter⟩
    exact splitLastColon_append hafter before

/-- Resolving an address cuts it around its last colon. -/
theorem aroundLastColon_iff {text before after : String} :
    AroundLastColon text before after ↔
      splitLastColon text.toList = some (before.toList, after.toList) := by
  rw [splitLastColon_eq_some_iff, AroundLastColon, ← String.toList_inj]
  simp

/-- A text has one last colon. -/
theorem AroundLastColon.unique {text before after before' after' : String}
    (h : AroundLastColon text before after) (h' : AroundLastColon text before' after') :
    before = before' ∧ after = after' := by
  have hsame := (aroundLastColon_iff.mp h).symm.trans (aroundLastColon_iff.mp h')
  simpa [String.toList_inj] using hsame

/-! ## Ports in decimal -/

theorem isDigit_of_mem_toString {n : Nat} {c : Char} (h : c ∈ (toString n).toList) :
    c.isDigit = true := by
  rw [Nat.toString_eq_repr, Nat.toList_repr] at h
  exact Nat.isDigit_of_mem_toDigits (by decide) (by decide) h

theorem colon_not_mem_toString (n : Nat) : ':' ∉ (toString n).toList :=
  fun h => absurd (isDigit_of_mem_toString h) (by decide)

theorem isDigit_iff {c : Char} : c.isDigit = true ↔ '0' ≤ c ∧ c ≤ '9' := by
  simp [Char.isDigit, Char.le_def]

theorem digit?_of_isDigit {c : Char} (h : c.isDigit = true) :
    digit? 10 c = some (c.toNat - '0'.toNat) := by
  have hrange := isDigit_iff.mp h
  have hle : c.toNat ≤ '9'.toNat := UInt32.le_iff_toNat_le.mp (Char.le_def.mp hrange.2)
  have hlt : c.toNat - '0'.toNat < 10 := Nat.lt_succ_of_le (Nat.sub_le_sub_right hle _)
  unfold digit?
  rw [if_pos hrange]
  exact Option.filter_eq_some_iff.mpr ⟨rfl, decide_eq_true hlt⟩

/-- Digits are read as the number that they spell. -/
theorem digits?_of_isDigit {cs : List Char} (h : ∀ c ∈ cs, c.isDigit = true) (n : Nat) :
    digits? 10 n cs = some (Nat.ofDigitChars 10 cs n) := by
  induction cs generalizing n with
  | nil => rfl
  | cons c cs ih =>
    obtain ⟨hc, hcs⟩ := List.forall_mem_cons.mp h
    rw [digits?, digit?_of_isDigit hc, Nat.ofDigitChars_cons, Nat.mul_comm 10 n]
    exact ih hcs _

theorem numeral?_toDigits {n limit : Nat} (h : n ≤ limit) :
    numeral? 10 limit (Nat.toDigits 10 n) = some n := by
  have hdigits : ∀ c ∈ Nat.toDigits 10 n, c.isDigit = true :=
    fun _ => Nat.isDigit_of_mem_toDigits (by decide) (by decide)
  unfold numeral?
  split
  · next hnil => exact absurd hnil Nat.toDigits_ne_nil
  · rw [digits?_of_isDigit hdigits, Nat.ofDigitChars_ten_toDigits]
    exact Option.filter_eq_some_iff.mpr ⟨rfl, decide_eq_true h⟩

/-- A number that is not too large is read back from its decimal text. -/
theorem readNat?_toString {n limit : Nat} (h : n ≤ limit) :
    readNat? limit (toString n) = some n := by
  -- A plus sign in front would be skipped, but it is no digit.
  unfold readNat?
  split
  · next hplus =>
    have hmem : '+' ∈ (toString n).toList := hplus ▸ List.mem_cons_self
    exact absurd (isDigit_of_mem_toString hmem) (by decide)
  · rw [Nat.toString_eq_repr, Nat.toList_repr]
    exact numeral?_toDigits h

theorem readNat?_port (port : UInt16) :
    readNat? maxPort (toString port.toNat) = some port.toNat :=
  readNat?_toString (Nat.le_of_lt_succ port.toNat_lt)

/-! ## Hosts and their brackets -/

/-- A host that is put in brackets: with a colon in it, and no bracket in front yet. -/
def NeedsBrackets (host : String) : Prop :=
  ':' ∈ host.toList ∧ host.toList.head? ≠ some '['

instance : DecidablePred NeedsBrackets := fun _ => inferInstanceAs (Decidable (_ ∧ _))

/-- A host in one pair of brackets. -/
def inBrackets (host : String) : String := "[" ++ host ++ "]"

/-- The host as it stands in an address text. -/
def hostPart (host : String) : String :=
  if NeedsBrackets host then inBrackets host else host

theorem joinHostPort_eq (host : String) (port : UInt16) :
    joinHostPort host port = hostPart host ++ ":" ++ toString port.toNat := by
  by_cases h : NeedsBrackets host
  · have hcode : (host.toList.contains ':' && host.toList.head? != some '[') = true := by
      simpa [NeedsBrackets] using h
    rw [joinHostPort, if_pos hcode, hostPart, if_pos h, inBrackets]
    simp [String.append_assoc]
  · have hcode : ¬(host.toList.contains ':' && host.toList.head? != some '[') = true := by
      simpa [NeedsBrackets] using h
    rw [joinHostPort, if_neg hcode, hostPart, if_neg h]

theorem head?_inBrackets (host : String) : (inBrackets host).toList.head? = some '[' := by
  simp [inBrackets]

theorem not_needsBrackets_inBrackets (host : String) : ¬NeedsBrackets (inBrackets host) :=
  fun h => h.2 (head?_inBrackets host)

theorem inBrackets_inj {host host' : String} :
    inBrackets host = inBrackets host' ↔ host = host' := by
  simp [inBrackets, ← String.toList_inj]

/-- Brackets that are there already are as good as those that are put there. -/
theorem hostPart_inBrackets {host : String} (h : NeedsBrackets host) :
    hostPart (inBrackets host) = hostPart host := by
  rw [hostPart, hostPart, if_pos h, if_neg (not_needsBrackets_inBrackets host)]

/-- Without a bracket in front, only a colon calls for brackets. -/
theorem hostPart_of_no_bracket {host : String} (h : host.toList.head? ≠ some '[') :
    hostPart host = if ':' ∈ host.toList then inBrackets host else host := by
  simp [hostPart, NeedsBrackets, h]

/-- Two hosts look the same in an address only if one is the other one in brackets. -/
theorem hostPart_eq_iff {host host' : String} :
    hostPart host = hostPart host' ↔
      host = host' ∨ (NeedsBrackets host ∧ host' = inBrackets host) ∨
        (NeedsBrackets host' ∧ host = inBrackets host') := by
  constructor
  · intro h
    unfold hostPart at h
    split at h <;> split at h
    · exact .inl (inBrackets_inj.mp h)
    · next hneeds _ => exact .inr (.inl ⟨hneeds, h.symm⟩)
    · next _ hneeds => exact .inr (.inr ⟨hneeds, h⟩)
    · exact .inl h
  · rintro (rfl | ⟨hneeds, rfl⟩ | ⟨hneeds, rfl⟩)
    · rfl
    · exact (hostPart_inBrackets hneeds).symm
    · exact hostPart_inBrackets hneeds

/-! ## Whole addresses -/

theorem aroundLastColon_joinHostPort (host : String) (port : UInt16) :
    AroundLastColon (joinHostPort host port) (hostPart host) (toString port.toNat) :=
  ⟨joinHostPort_eq host port, colon_not_mem_toString _⟩

/-- The port is never lost in an address, and of the host only whether it came in brackets. -/
theorem joinHostPort_eq_iff {host host' : String} {port port' : UInt16} :
    joinHostPort host port = joinHostPort host' port' ↔
      port = port' ∧ (host = host' ∨ (NeedsBrackets host ∧ host' = inBrackets host) ∨
        (NeedsBrackets host' ∧ host = inBrackets host')) := by
  rw [← hostPart_eq_iff]
  constructor
  · intro h
    have hparts := aroundLastColon_joinHostPort host port
    obtain ⟨hhost, hport⟩ := (h ▸ hparts).unique (aroundLastColon_joinHostPort host' port')
    have hread := congrArg (readNat? maxPort) hport
    rw [readNat?_port, readNat?_port, Option.some.injEq] at hread
    exact ⟨UInt16.toNat.inj hread, hhost⟩
  · rintro ⟨rfl, hhost⟩
    rw [joinHostPort_eq, joinHostPort_eq, hhost]

/-- Takes the brackets off a host that starts with one; the last character is taken for the
other. -/
def bareHost : List Char → List Char
  | '[' :: host => host.dropLast
  | host => host

/-- The host and the port that an address was put together from, if the host had no bracket in
front. -/
def splitHostPort (text : String) : Option (String × UInt16) := do
  let (host, port) ← splitLastColon text.toList
  let n ← readNat? maxPort (String.ofList port)
  return (String.ofList (bareHost host), n.toUInt16)

theorem bareHost_hostPart {host : String} (h : host.toList.head? ≠ some '[') :
    bareHost (hostPart host).toList = host.toList := by
  rw [hostPart_of_no_bracket h]
  split
  · simp [inBrackets, bareHost]
  · unfold bareHost
    split
    · next hbracket =>
      rw [hbracket] at h
      exact absurd rfl h
    · rfl

theorem splitHostPort_joinHostPort {host : String} (h : host.toList.head? ≠ some '[')
    (port : UInt16) : splitHostPort (joinHostPort host port) = some (host, port) := by
  have hsplit := aroundLastColon_iff.mp (aroundLastColon_joinHostPort host port)
  simp only [splitHostPort, hsplit, Option.bind_eq_bind, Option.bind_some, String.ofList_toList,
    readNat?_port, bareHost_hostPart h]
  simp

/-- **An address comes apart at its last colon.** Take a host with no bracket in front and a port.
Behind the last colon of their address stands the port in decimal, and before it the host, in one
pair of brackets just when there is a colon in it. So host and port can be had back from the
address, and another host without a bracket in front, or another port, never gives the same one. A
host with a colon gives the same address when it brings its brackets along. -/
theorem address_comes_apart {host : String} (hhost : host.toList.head? ≠ some '[')
    (port : UInt16) :
    (∀ before after, AroundLastColon (joinHostPort host port) before after ↔
        before = (if ':' ∈ host.toList then "[" ++ host ++ "]" else host) ∧
          after = toString port.toNat) ∧
      splitHostPort (joinHostPort host port) = some (host, port) ∧
      (∀ host' port', host'.toList.head? ≠ some '[' → (host', port') ≠ (host, port) →
        joinHostPort host' port' ≠ joinHostPort host port) ∧
      (':' ∈ host.toList →
        joinHostPort ("[" ++ host ++ "]") port = joinHostPort host port) := by
  have hparts := aroundLastColon_joinHostPort host port
  have hback := splitHostPort_joinHostPort hhost port
  refine ⟨fun before after => ?_, hback, ?_, ?_⟩
  · rw [hostPart_of_no_bracket hhost] at hparts
    constructor
    · exact fun h => h.unique hparts
    · rintro ⟨rfl, rfl⟩
      exact hparts
  · intro host' port' hhost' hne hsame
    have hback' := splitHostPort_joinHostPort hhost' port'
    rw [hsame, hback] at hback'
    exact hne (Option.some.inj hback').symm
  · intro hcolon
    exact joinHostPort_eq_iff.mpr ⟨rfl, .inr (.inr ⟨⟨hcolon, hhost⟩, rfl⟩)⟩

/-- A host that ends like an address, with a bracket, a colon and a number. -/
def misleadingHost : String := "::]:80"

/-- Only the last colon counts. The address is not that of the shorter host, but it is that of the
host with its brackets written out. -/
theorem comes_apart_of_misleadingHost :
    misleadingHost.toList.head? ≠ some '[' ∧
      (∀ before after, AroundLastColon "[::]:80]:502" before after ↔
        before = "[::]:80]" ∧ after = "502") ∧
      splitHostPort "[::]:80]:502" = some (misleadingHost, 502) ∧
      joinHostPort "::" 80 ≠ joinHostPort misleadingHost 502 ∧
      joinHostPort "[::]:80]" 502 = joinHostPort misleadingHost 502 := by
  have hhost : misleadingHost.toList.head? ≠ some '[' := by decide +kernel
  have htext : joinHostPort misleadingHost 502 = "[::]:80]:502" := by decide +kernel
  obtain ⟨hparts, hback, hother, hsame⟩ := address_comes_apart hhost 502
  rw [htext] at hparts hback
  exact ⟨hhost, hparts, hback, hother "::" 80 (by decide +kernel) (by decide +kernel),
    hsame (by decide +kernel)⟩

end ModbusRelay
