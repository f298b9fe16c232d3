import CodeMarkup.Command.Arguments

/-!
Arguments with an option in front. Arguments that make a request make the same one with an option
for the output file in front, except that the output goes to the file. An option for debug notices
in front of any arguments changes nothing but that they are asked for.
-/

namespace CodeMarkup

/-- What is asked for, with debug notices or without. -/
def Call.withDebug (debug : Bool) : Call → Call
  | help => help
  | request r => request { r with debug }

namespace Arguments

variable {isDirectory : String → Bool} {a : Arguments} {args : List String}

theorem checkPath_of_notMem {given : String} (h : '\x00' ∉ given.toList) :
    checkPath given = .ok () := by
  have hcontains : given.contains '\x00' = false := by simp [h]
  simp only [checkPath, hcontains]
  rfl

theorem forIn_check_eq_ok_iff (isDirectory : String → Bool) (a : Arguments)
    (flags : List GivenFlag) :
    (forIn flags PUnit.unit fun e _ => do
        a.check isDirectory e.1
        pure (ForInStep.yield PUnit.unit)) = Except.ok PUnit.unit ↔
      ∀ e ∈ flags, a.check isDirectory e.1 = .ok () := by
  induction flags with
  | nil => simp [pure, Except.pure]
  | cons e flags ih =>
    rw [List.forIn_cons, List.forall_mem_cons, ← ih]
    cases a.check isDirectory e.1 <;> simp [bind, Except.bind, pure, Except.pure]

/-- Arguments make a request if nothing is wrong with their form, help is not asked for, the values
are right, and there is one source, which can be a path. -/
theorem call_eq_request_iff {r : Request} :
    call isDirectory args = .ok (.request r) ↔
      ∃ a source, read args = .ok a ∧ a.has .help = false ∧
        (∀ e ∈ a.flags, a.check isDirectory e.1 = .ok ()) ∧ a.others = [source] ∧
        checkPath source = .ok () ∧ a.toRequest source = r := by
  unfold call
  cases hread : read args with
  | error e =>
    constructor
    · intro h
      cases h
    · rintro ⟨a, -, ha, -⟩
      cases ha
  | ok a =>
    have hchecks := forIn_check_eq_ok_iff isDirectory a a.flags
    have hread' : (Except.ok a : Except UsageError Arguments).mapError Refusal.usage = .ok a := rfl
    simp only [hread', bind, Except.bind, pure, Except.pure] at hchecks ⊢
    constructor
    · intro h
      split at h
      · cases h
      · next hhelp =>
        split at h
        · cases h
        · next u hu =>
          split at h
          · cases h
          · next source extra hothers =>
            split at h
            · cases h
            · next v hv =>
              split at h
              · next hextra =>
                obtain rfl := List.isEmpty_iff.mp hextra
                obtain rfl : a.toRequest source = r := by simpa using h
                exact ⟨a, source, rfl, by simpa using hhelp, hchecks.mp hu, hothers, hv, rfl⟩
              · cases h
    · rintro ⟨_, source, ha, hhelp, hall, hothers, hpath, rfl⟩
      obtain rfl := Except.ok.inj ha
      simp [hhelp, hchecks.mpr hall, hothers, hpath]

theorem read_output (given : String) (args : List String) :
    read ("-o" :: given :: args) = (read args).map (withFlags · [(.output, given)]) := by
  have hfirst : Argument.ofText "-o" = .ok (.pending [] .output "-o") := by rfl
  rw [read]
  · cases hread : read args <;>
      simp [hfirst, hread, bind, Except.bind, Except.map, pure, Except.pure]
  · decide

/-- An option in front counts only for itself, and only where it is not given again. -/
theorem value?_withFlags_singleton (a : Arguments) (first : GivenFlag) (flag : Flag) :
    (a.withFlags [first]).value? flag =
      (a.value? flag).or (if flag = first.1 then some first.2 else none) := by
  have hflags : (a.withFlags [first]).flags.reverse = a.flags.reverse ++ [first] := by
    simp [withFlags]
  rw [value?, hflags, valueAt?_append, ← value?]
  by_cases hflag : flag = first.1
  · simp [valueAt?, hflag]
  · simp [valueAt?, hflag, Ne.symm hflag]

/-! ### An output file -/

/-- The values of the other options are what they are without the one in front. -/
theorem value?_withFlags (given : String) (flag : Flag) (h : a.value? .output = none) :
    (a.withFlags [(.output, given)]).value? flag =
      if flag = .output then some given else a.value? flag := by
  rw [value?_withFlags_singleton]
  by_cases hflag : flag = .output
  · simp [hflag, h]
  · rw [if_neg hflag, if_neg hflag, Option.or_none]

/-- An option for the output file in front of arguments that have none adds the file to their
request. -/
theorem call_output {r : Request} {given : String}
    (h : call isDirectory args = .ok (.request r)) (hnone : r.output = none)
    (hpath : '\x00' ∉ given.toList) (hfile : isDirectory given = false) :
    call isDirectory ("-o" :: given :: args) =
      .ok (.request { r with output := some (.ofText given) }) := by
  obtain ⟨a, source, hread, hhelp, hchecks, hothers, hsource, rfl⟩ := call_eq_request_iff.mp h
  have houtput : a.value? .output = none := by simpa [toRequest] using hnone
  have hvalue (flag : Flag) := value?_withFlags given flag houtput
  have hcheck (flag : Flag) (hflag : flag ≠ .output) :
      (a.withFlags [(.output, given)]).check isDirectory flag = a.check isDirectory flag := by
    simp only [check, hvalue, if_neg hflag]
  refine call_eq_request_iff.mpr ⟨a.withFlags [(.output, given)], source, ?_, ?_, ?_, hothers,
    hsource, ?_⟩
  · rw [read_output, hread]
    rfl
  · simpa [has, hvalue] using hhelp
  · intro e he
    by_cases hflag : e.1 = .output
    · rw [hflag]
      simp only [check, hvalue, ↓reduceIte, Option.getD_some, checkPath_of_notMem hpath, hfile]
      rfl
    · have hmem : e ∈ a.flags := by
        rcases List.mem_append.mp he with h | h
        · exact absurd (congrArg Prod.fst (List.mem_singleton.mp h)) hflag
        · exact h
      rw [hcheck _ hflag]
      exact hchecks e hmem
  · simp [toRequest, has, hvalue]

/-! ### Debug notices -/

theorem read_debug (args : List String) :
    read ("--debug" :: args) = (read args).map (withFlags · [(.debug, "")]) := by
  have hfirst : Argument.ofText "--debug" = .ok (.flags [(.debug, "")]) := by rfl
  rw [read]
  · cases hread : read args <;>
      simp [hfirst, bind, Except.bind, Except.map, pure, Except.pure]
  · decide

theorem value?_withFlags_debug (a : Arguments) {flag : Flag} (h : flag ≠ .debug) :
    (a.withFlags [(.debug, "")]).value? flag = a.value? flag := by
  rw [value?_withFlags_singleton, if_neg h, Option.or_none]

theorem check_withFlags_debug (isDirectory : String → Bool) (a : Arguments) :
    (a.withFlags [(.debug, "")]).check isDirectory = a.check isDirectory := by
  funext flag
  cases flag with
  | debug => rfl
  | _ => simp [check, value?_withFlags_debug]

theorem toRequest_withFlags_debug (a : Arguments) (source : String) :
    (a.withFlags [(.debug, "")]).toRequest source = { a.toRequest source with debug := true } := by
  simp [toRequest, has, value?_withFlags_singleton]

/-- An option for debug notices in front changes nothing but that they are asked for. -/
theorem call_debug (isDirectory : String → Bool) (args : List String) :
    call isDirectory ("--debug" :: args) =
      (call isDirectory args).map (Call.withDebug true) := by
  unfold call
  rw [read_debug]
  cases read args with
  | error e => rfl
  | ok a =>
    have hhelp : (a.withFlags [(.debug, "")]).has .help = a.has .help := by
      rw [has, value?_withFlags_debug a (by decide), ← has]
    have hothers : (a.withFlags [(.debug, "")]).others = a.others := rfl
    have hflags : (a.withFlags [(.debug, "")]).flags = (.debug, "") :: a.flags := rfl
    have hcheck : a.check isDirectory .debug = .ok () := rfl
    show (Except.ok (a.withFlags [(.debug, "")]) >>= _) = (Except.ok a >>= _).map _
    simp only [bind, Except.bind, pure, Except.pure, hhelp, hothers, hflags, hcheck,
      check_withFlags_debug, toRequest_withFlags_debug, List.forIn_cons]
    cases a.has .help with
    | true => rfl
    | false =>
      simp only [Bool.false_eq_true, ↓reduceIte]
      -- The two loops over the values are one and end in one way.
      split
      · rfl
      · cases a.others with
        | nil => rfl
        | cons source extra =>
          simp only
          cases checkPath source with
          | error e => rfl
          | ok u => cases extra <;> rfl

end Arguments

end CodeMarkup
