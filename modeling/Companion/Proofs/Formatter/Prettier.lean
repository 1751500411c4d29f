import Companion.Formatter.Prettier
import Companion.Proofs.Failure
import Companion.Program.StandIn

/-!
# Formatting code after code

One formatter is handed codes in a row, and anything may come of each call of its program. Main
statement: every code becomes what the program wrote for it, or stays as it is if the program is not
there or does not end well, exactly when the probe starts or finds the program missing and, behind a
probe that ends well, every other call starts. A call that the system refuses in another way is a
failure of the formatter.
-/

set_option autoImplicit false

namespace Companion

namespace Outcome

/-- What a program wrote can be read as text. -/
def IsReadable : Outcome → Prop
  | .exited _ output errors => (Utf8.decode output).isSome ∧ (Utf8.decode errors).isSome
  | _ => True

/-- The program could be started. -/
def IsStarted : Outcome → Prop
  | .refused _ => False
  | _ => True

/-- Whether the program ended well. -/
def succeeds : Outcome → Bool
  | .exited status _ _ => status = 0
  | _ => false

theorem exists_refused_of_not_isStarted {outcome : Outcome} (refused : ¬ outcome.IsStarted) :
    ∃ failure, outcome = .refused failure := by
  cases outcome with
  | refused failure => exact ⟨failure, rfl⟩
  | timedOut | exited => exact absurd trivial refused

/-- What a program wrote, if it ended well. -/
def output? : Outcome → Option Text
  | .exited status output _ => if status = 0 then (programText output).toOption else none
  | _ => none

end Outcome

theorem exists_programText_eq_ok {bytes : Bytes} (readable : (Utf8.decode bytes).isSome) :
    ∃ text, programText bytes = .ok text := by
  obtain ⟨text, decoded⟩ := Option.isSome_iff_exists.mp readable
  exact ⟨text.universalNewlines, by rw [programText, decoded]⟩

namespace Prettier

variable {respond : Responder} {settings : FormatterSettings} {prettier : Prettier}
  {code : Text} {codes : List Text}

/-! ## Calls -/

/-- The call that hands over some arguments, if they can be handed over. -/
def callOf (settings : FormatterSettings) (arguments : Except Failure (List Value)) (input : Text) :
    Except Failure Call := do
  let texts ← (← arguments).mapM argument
  return ⟨texts, input, (limitOf settings.timeout).toOption.join⟩

/-- The call that asks for the version. -/
def probeCall (settings : FormatterSettings) : Except Failure Call :=
  callOf settings (probeArguments settings) []

/-- The call that formats a code. -/
def formatCall (settings : FormatterSettings) (code : Text) : Except Failure Call :=
  callOf settings (formatArguments settings) code

/-- What is seen of an outcome: a time limit that cannot be waited is a failure once the program has
been started. -/
def seen (settings : FormatterSettings) : Outcome → Except Failure Outcome
  | .refused failure => .ok (.refused failure)
  | outcome => (limitOf settings.timeout).map fun _ => outcome

theorem call_eq (respond : Responder) (prettier : Prettier) (arguments : List Value)
    (input : Text) : call respond prettier arguments input =
      match callOf prettier.settings (.ok arguments) input with
      | .error failure => (.error failure, prettier)
      | .ok made =>
        (seen prettier.settings (respond (made :: prettier.calls)),
          { prettier with calls := made :: prettier.calls }) := by
  cases texts : arguments.mapM argument with
  | error failure => simp [call, callOf, texts, bind, Except.bind]
  | ok texts =>
      cases limit : limitOf prettier.settings.timeout <;>
        simp only [call, callOf, seen, *, bind, Except.bind, pure, Except.pure] <;>
        split <;> simp_all [Except.map]

theorem seen_of_limit {limit : Option Int} (limited : limitOf settings.timeout = .ok limit)
    (outcome : Outcome) : seen settings outcome = .ok outcome := by
  cases outcome <;> simp [seen, limited, Except.map]

theorem seen_of_started {failure : Failure} {outcome : Outcome}
    (unlimited : limitOf settings.timeout = .error failure) (started : outcome.IsStarted) :
    seen settings outcome = .error failure := by
  cases outcome with
  | refused => cases started
  | timedOut | exited => simp [seen, unlimited, Except.map]

theorem exists_arguments_of_callOf {arguments : Except Failure (List Value)} {input : Text}
    {made : Call} (calls : callOf settings arguments input = .ok made) :
    ∃ values, arguments = .ok values ∧ made.arguments.length = values.length := by
  obtain ⟨values, given, rest⟩ := Failure.bind_eq_ok_iff.mp calls
  obtain ⟨texts, read, same⟩ := Failure.bind_eq_ok_iff.mp rest
  obtain rfl := Except.ok.inj same
  exact ⟨values, given, (Failure.forall₂_of_mapM_eq_ok read).length_eq.symm⟩

theorem exists_of_probeArguments {values : List Value}
    (asked : probeArguments settings = .ok values) :
    ∃ name, command settings = .ok name ∧ values = name ++ [.string "--version"] := by
  obtain ⟨name, named, same⟩ := Failure.bind_eq_ok_iff.mp asked
  exact ⟨name, named, (Except.ok.inj same).symm⟩

theorem exists_of_formatArguments {values : List Value}
    (asked : formatArguments settings = .ok values) :
    ∃ name rest, command settings = .ok name ∧
      values = name ++ .string "--parser" :: settings.parser :: rest := by
  obtain ⟨name, named, behind⟩ := Failure.bind_eq_ok_iff.mp asked
  obtain ⟨width, -, behind⟩ := Failure.bind_eq_ok_iff.mp behind
  cases extra : settings.extraArguments.parts? with
  | none =>
      rw [extra] at behind
      cases behind
  | some extra' =>
      rw [extra] at behind
      exact ⟨name, width ++ extra', named, by simpa using (Except.ok.inj behind).symm⟩

/-- The probe is no call that formats: it has fewer arguments. -/
theorem formatCall_ne_probeCall {made probe : Call} (formats : formatCall settings code = .ok made)
    (probes : probeCall settings = .ok probe) : made ≠ probe := by
  obtain ⟨values, asked, many⟩ := exists_arguments_of_callOf formats
  obtain ⟨others, probed, few⟩ := exists_arguments_of_callOf probes
  obtain ⟨name, rest, named, rfl⟩ := exists_of_formatArguments asked
  obtain ⟨same, renamed, rfl⟩ := exists_of_probeArguments probed
  obtain rfl := Except.ok.inj (named.symm.trans renamed)
  intro equal
  rw [equal, few] at many
  simp at many

/-! ## The probe -/

/-- An outcome of the probe that is no failure of the formatter. -/
def IsHarmless (settings : FormatterSettings) (outcome : Outcome) : Prop :=
  outcome = .refused .missing ∨
    outcome.IsStarted ∧ ∃ limit, limitOf settings.timeout = .ok limit

/-- What the formatter is like once the probe has ended. -/
def probed (prettier : Prettier) (call : Call) (outcome : Outcome) : Prettier :=
  { prettier with installed := some outcome.succeeds, calls := call :: prettier.calls }

theorem probe_cases (readable : ∀ calls, (respond calls).IsReadable) (prettier : Prettier) :
    (∃ call, probeCall prettier.settings = .ok call ∧
      IsHarmless prettier.settings (respond (call :: prettier.calls)) ∧
      (probe respond prettier).result = .ok (respond (call :: prettier.calls)).succeeds ∧
      (probe respond prettier).prettier =
        prettier.probed call (respond (call :: prettier.calls))) ∨
    (∃ failure, (probe respond prettier).result = .error failure) ∧
      ∀ call, probeCall prettier.settings = .ok call →
        ¬ IsHarmless prettier.settings (respond (call :: prettier.calls)) := by
  unfold probe probeCall
  cases asked : probeArguments prettier.settings with
  | error failure => exact .inr ⟨⟨failure, rfl⟩, nofun⟩
  | ok arguments =>
      simp only [call_eq]
      cases made : callOf prettier.settings (.ok arguments) [] with
      | error failure => exact .inr ⟨⟨failure, rfl⟩, nofun⟩
      | ok call =>
          have reads := readable (call :: prettier.calls)
          simp only [Except.ok.injEq, forall_eq', exists_eq_left']
          generalize respond (call :: prettier.calls) = outcome at reads
          -- The time limit counts only behind a start.
          by_cases started : outcome.IsStarted
          · cases limit : limitOf prettier.settings.timeout with
            | error failure =>
                refine .inr ⟨⟨failure, by rw [seen_of_started limit started]⟩, ?_⟩
                intro harmless
                cases harmless with
                | inl missing =>
                    rw [missing] at started
                    cases started
                | inr limited =>
                    obtain ⟨-, time, limited⟩ := limited
                    cases limit.symm.trans limited
            | ok time =>
                refine .inl ⟨.inr ⟨started, time, limit⟩, ?_⟩
                rw [seen_of_limit limit]
                cases outcome with
                | refused => cases started
                | timedOut => exact ⟨rfl, rfl⟩
                | exited status output errors =>
                    obtain ⟨text, read⟩ := exists_programText_eq_ok reads.1
                    obtain ⟨said, readErrors⟩ := exists_programText_eq_ok reads.2
                    simp only [read, readErrors]
                    exact ⟨rfl, rfl⟩
          · obtain ⟨failure, rfl⟩ := Outcome.exists_refused_of_not_isStarted started
            by_cases missing : failure = .missing
            · subst missing
              exact .inl ⟨.inl rfl, rfl, rfl⟩
            · refine .inr ⟨⟨.system failure, ?_⟩, ?_⟩
              · simp [seen]
              · simp [IsHarmless, missing, Outcome.IsStarted]

/-! ## One code after the other -/

/-- What a code becomes by the outcome of the call for it. -/
def received (code : Text) : Except Failure Outcome → Except Failure Text
  | .error failure => .error failure
  | .ok (.refused failure) => .error (.system failure)
  | .ok outcome => .ok (outcome.output?.getD code)

/-- The calls made, if the one for a code is among them. -/
def callsWith (settings : FormatterSettings) (code : Text) (before : List Call) : List Call :=
  (formatCall settings code).toOption.toList ++ before

/-- What comes of the calls for codes in a row, `before` being the calls made before. -/
def outcomesAfter (respond : Responder) (settings : FormatterSettings) :
    List Call → List Text → List (Except Failure Outcome)
  | _, [] => []
  | before, code :: rest =>
    (formatCall settings code).map (fun call => respond (call :: before)) ::
      outcomesAfter respond settings (callsWith settings code before) rest

theorem format_of_missing (missing : prettier.installed = some false) (code : Text) :
    format respond prettier code = ⟨.ok code, prettier, []⟩ := by
  rw [format, isInstalled, missing]

theorem formatEach_of_missing (prettier : Prettier) (missing : prettier.installed = some false)
    (codes : List Text) :
    formatEach respond prettier codes = (codes.map .ok, prettier) := by
  induction codes with
  | nil => rfl
  | cons code rest ih => simp [formatEach, format_of_missing missing, ih]

theorem formatWith_eq {limit : Option Int} (readable : ∀ calls, (respond calls).IsReadable)
    (limited : limitOf prettier.settings.timeout = .ok limit) (code : Text) :
    (formatWith respond prettier code).result = received code
        ((formatCall prettier.settings code).map fun call => respond (call :: prettier.calls)) ∧
      (formatWith respond prettier code).prettier =
        { prettier with calls := callsWith prettier.settings code prettier.calls } := by
  unfold formatWith callsWith formatCall
  cases asked : formatArguments prettier.settings with
  | error failure => exact ⟨rfl, rfl⟩
  | ok arguments =>
      simp only [call_eq]
      cases made : callOf prettier.settings (.ok arguments) code with
      | error failure => exact ⟨rfl, rfl⟩
      | ok call =>
          have reads := readable (call :: prettier.calls)
          simp only [seen_of_limit limited, Except.map]
          generalize respond (call :: prettier.calls) = outcome at reads
          cases outcome with
          | refused failure => exact ⟨rfl, rfl⟩
          | timedOut => exact ⟨rfl, rfl⟩
          | exited status output errors =>
              obtain ⟨text, read⟩ := exists_programText_eq_ok reads.1
              obtain ⟨said, readErrors⟩ := exists_programText_eq_ok reads.2
              by_cases well : status = 0 <;>
                simp [read, readErrors, well, received, Outcome.output?, Except.toOption]

theorem format_of_installed (respond : Responder) (installed : prettier.installed = some true)
    (code : Text) :
    (format respond prettier code).result = (formatWith respond prettier code).result ∧
      (format respond prettier code).prettier = (formatWith respond prettier code).prettier := by
  rw [format, isInstalled, installed]
  exact ⟨rfl, rfl⟩

theorem formatEach_cons (respond : Responder) (prettier : Prettier) (code : Text)
    (rest : List Text) : formatEach respond prettier (code :: rest) =
      ((format respond prettier code).result ::
          (formatEach respond (format respond prettier code).prettier rest).1,
        (formatEach respond (format respond prettier code).prettier rest).2) := rfl

theorem count_callsWith {probe : Call} (probes : probeCall settings = .ok probe) (code : Text)
    (before : List Call) : (callsWith settings code before).count probe = before.count probe := by
  unfold callsWith
  cases made : formatCall settings code with
  | error failure => rfl
  | ok call => exact List.count_cons_of_ne (formatCall_ne_probeCall made probes)

/-- A formatter that has found its program makes one call for each code that can be handed over, and
no other one. -/
theorem formatEach_of_installed {limit : Option Int} (prettier : Prettier)
    (readable : ∀ calls, (respond calls).IsReadable)
    (limited : limitOf prettier.settings.timeout = .ok limit)
    (installed : prettier.installed = some true) (codes : List Text) :
    (formatEach respond prettier codes).1 = List.zipWith received codes
        (outcomesAfter respond prettier.settings prettier.calls codes) ∧
      ∀ probe, probeCall prettier.settings = .ok probe →
        (formatEach respond prettier codes).2.calls.count probe = prettier.calls.count probe := by
  induction codes generalizing prettier with
  | nil => exact ⟨rfl, fun _ _ => rfl⟩
  | cons code rest ih =>
      obtain ⟨result, after⟩ := format_of_installed respond installed code
      obtain ⟨received, called⟩ := formatWith_eq readable limited code
      rw [called] at after
      rw [received] at result
      obtain ⟨others, counted⟩ := ih (format respond prettier code).prettier
        (by rw [after]; exact limited) (by rw [after]; exact installed)
      rw [after] at others counted
      rw [formatEach_cons, outcomesAfter, List.zipWith_cons_cons, result, after, others]
      refine ⟨rfl, fun probe probes => ?_⟩
      rw [counted probe probes]
      exact count_callsWith probes code prettier.calls

/-! ## From the first call on -/

theorem format_of_probe {found : Bool} (unknown : prettier.installed = none)
    (result : (probe respond prettier).result = .ok found)
    (known : (probe respond prettier).prettier.installed = some found) (code : Text) :
    (format respond prettier code).result =
        (format respond (probe respond prettier).prettier code).result ∧
      (format respond prettier code).prettier =
        (format respond (probe respond prettier).prettier code).prettier := by
  rw [format, format, isInstalled, isInstalled, unknown, known]
  cases asked : probe respond prettier with
  | mk outcome after log =>
      rw [asked] at result
      obtain rfl : outcome = .ok found := result
      cases found <;> exact ⟨rfl, rfl⟩

theorem format_of_failing {failure : Failure} (unknown : prettier.installed = none)
    (raised : (probe respond prettier).result = .error failure) (code : Text) :
    (format respond prettier code).result = .error failure := by
  rw [format, isInstalled, unknown]
  cases asked : probe respond prettier with
  | mk outcome after log =>
      rw [asked] at raised
      obtain rfl : outcome = .error failure := raised
      rfl

/-- A formatter that does not know whether its program is there is as good as one that has asked. -/
theorem formatEach_of_probe {found : Bool} (unknown : prettier.installed = none)
    (result : (probe respond prettier).result = .ok found)
    (known : (probe respond prettier).prettier.installed = some found) (code : Text)
    (rest : List Text) : formatEach respond prettier (code :: rest) =
      formatEach respond (probe respond prettier).prettier (code :: rest) := by
  obtain ⟨same, after⟩ := format_of_probe unknown result known code
  rw [formatEach_cons, formatEach_cons, same, after]

/-- What codes are to become: what the program wrote for them if both the probe and the call ended
well, and otherwise what they are. -/
def expected (respond : Responder) (settings : FormatterSettings) (codes : List Text) : List Text :=
  match probeCall settings with
  | .ok probe =>
    if (respond [probe]).succeeds then
      List.zipWith (fun code outcome => (outcome.toOption.bind Outcome.output?).getD code) codes
        (outcomesAfter respond settings [probe] codes)
    else codes
  | .error _ => codes

/-- No code in a row makes the formatter fail, all of them become what they are to become, and the
version is asked for at most once. -/
structure PassesAll (respond : Responder) (settings : FormatterSettings) (codes : List Text) : Prop
    where
  results : (formatEach respond { settings := settings } codes).1 =
    (expected respond settings codes).map .ok
  probes : ∀ probe, probeCall settings = .ok probe →
    (formatEach respond { settings := settings } codes).2.calls.count probe ≤ 1

theorem not_passesAll_of_mem {failure : Failure}
    (raised : .error failure ∈ (formatEach respond { settings := settings } codes).1) :
    ¬ PassesAll respond settings codes := by
  intro passes
  rw [passes.results] at raised
  obtain ⟨text, -, same⟩ := List.mem_map.mp raised
  cases same

theorem received_eq_ok_iff {outcome : Except Failure Outcome} :
    received code outcome = .ok ((outcome.toOption.bind Outcome.output?).getD code) ↔
      ∃ started, outcome = .ok started ∧ started.IsStarted := by
  cases outcome with
  | error failure => simp [received]
  | ok outcome => cases outcome <;> simp [received, Outcome.IsStarted, Except.toOption]

theorem length_outcomesAfter (respond : Responder) (settings : FormatterSettings)
    (before : List Call) (codes : List Text) :
    (outcomesAfter respond settings before codes).length = codes.length := by
  induction codes generalizing before with
  | nil => rfl
  | cons code rest ih => simp [outcomesAfter, ih]

theorem zipWith_received_eq_iff {outcomes : List (Except Failure Outcome)} {codes : List Text}
    (many : outcomes.length = codes.length) :
    List.zipWith received codes outcomes =
        (List.zipWith (fun code outcome => (outcome.toOption.bind Outcome.output?).getD code) codes
          outcomes).map .ok ↔
      ∀ outcome ∈ outcomes, ∃ started, outcome = .ok started ∧ started.IsStarted := by
  induction outcomes generalizing codes with
  | nil => simp
  | cons outcome rest ih =>
      cases codes with
      | nil => cases many
      | cons code codes =>
          simp only [List.zipWith_cons_cons, List.map_cons, List.cons.injEq, received_eq_ok_iff,
            ih (Nat.succ.inj many), List.forall_mem_cons]

theorem expected_of_probeCall {call : Call} (made : probeCall settings = .ok call)
    (codes : List Text) : expected respond settings codes =
      if (respond [call]).succeeds then
        List.zipWith (fun code outcome => (outcome.toOption.bind Outcome.output?).getD code) codes
          (outcomesAfter respond settings [call] codes)
      else codes := by
  rw [expected, made]

/-- Behind a harmless probe all depends on the calls for the codes, and on them only if the probe has
ended well. -/
theorem passesAll_iff_of_harmless {call : Call} (readable : ∀ calls, (respond calls).IsReadable)
    (made : probeCall settings = .ok call) (harmless : IsHarmless settings (respond [call]))
    (result : (probe respond { settings := settings }).result = .ok (respond [call]).succeeds)
    (after : (probe respond { settings := settings }).prettier =
      probed { settings := settings } call (respond [call])) (rest : List Text) :
    PassesAll respond settings (code :: rest) ↔
      ((respond [call]).succeeds → ∀ outcome ∈ outcomesAfter respond settings [call] (code :: rest),
        ∃ started, outcome = .ok started ∧ started.IsStarted) := by
  have onward := formatEach_of_probe rfl result (by rw [after]; rfl) code rest
  rw [after] at onward
  cases found : (respond [call]).succeeds with
  | false =>
      rw [formatEach_of_missing (probed { settings := settings } call (respond [call]))
        (congrArg some found)] at onward
      refine ⟨fun _ => nofun, fun _ => ⟨?_, fun probe probes => ?_⟩⟩
      · rw [onward, expected_of_probeCall made, found]
        rfl
      · rw [onward]
        exact List.count_le_length
  | true =>
      have limited : ∃ limit, limitOf settings.timeout = .ok limit := by
        cases harmless with
        | inl missing =>
            rw [missing] at found
            cases found
        | inr started => exact started.2
      obtain ⟨limit, limited⟩ := limited
      obtain ⟨results, counted⟩ := formatEach_of_installed
        (probed { settings := settings } call (respond [call])) readable limited
        (congrArg some found) (code :: rest)
      rw [← onward] at results counted
      have decided := zipWith_received_eq_iff
        (length_outcomesAfter respond settings [call] (code :: rest))
      constructor
      · intro passes _
        refine decided.mp ?_
        have agrees := passes.results
        rw [results, expected_of_probeCall made, if_pos found] at agrees
        exact agrees
      · intro started
        refine ⟨?_, fun probe probes => ?_⟩
        · rw [results, expected_of_probeCall made, if_pos found]
          exact decided.mpr (started rfl)
        · rw [counted probe probes]
          exact List.count_le_length

/-- Whatever comes of the calls, with outputs that can be read: the formatter passes all codes
exactly when the first one finds the program or finds it missing, and every call behind a probe that
ends well starts. -/
theorem formatEach_passes_iff (readable : ∀ calls, (respond calls).IsReadable) (codes : List Text) :
    PassesAll respond settings codes ↔
      codes = [] ∨ ∃ probe, probeCall settings = .ok probe ∧ IsHarmless settings (respond [probe]) ∧
        ((respond [probe]).succeeds → ∀ outcome ∈ outcomesAfter respond settings [probe] codes,
          ∃ started, outcome = .ok started ∧ started.IsStarted) := by
  cases codes with
  | nil =>
      refine ⟨fun _ => .inl rfl, fun _ => ⟨?_, fun _ _ => Nat.zero_le _⟩⟩
      unfold expected
      split <;> simp [formatEach]
  | cons code rest =>
      rw [or_iff_right (List.cons_ne_nil code rest)]
      cases probe_cases readable { settings := settings } with
      | inl asked =>
          obtain ⟨call, made, harmless, result, after⟩ := asked
          rw [passesAll_iff_of_harmless readable made harmless result after]
          simp only [made, Except.ok.injEq, exists_eq_left', harmless, true_and]
      | inr fails =>
          obtain ⟨⟨failure, raised⟩, harmful⟩ := fails
          constructor
          · intro passes
            have fails : .error failure ∈
                (formatEach respond { settings := settings } (code :: rest)).1 := by
              rw [formatEach_cons, format_of_failing rfl raised]
              exact List.mem_cons_self
            exact absurd passes (not_passesAll_of_mem fails)
          · intro passes
            obtain ⟨call, made, harmless, -⟩ := passes
            exact absurd harmless (harmful call made)

theorem limitOf_usual : limitOf (.integer 30) = .ok (some 30000) := by
  have least : ¬ (30 : Int) < leastTime := by decide +kernel
  rw [limitOf, if_neg least]
  rfl

/-- A program that is found, formats one code and takes too long for the next one. -/
theorem formatEach_passes_slow :
    let respond : Responder := fun calls =>
      match calls with
      | [_] => .exited 0 (Utf8.encode "3.6.2\n") []
      | [_, _] => .exited 0 (Utf8.encode "type A = 1;\r\n") []
      | _ => .timedOut
    (∀ calls, (respond calls).IsReadable) ∧ PassesAll respond {} ["type A=1", "type B=2"] ∧
      (formatEach respond { settings := {} } ["type A=1", "type B=2"]).1 =
        [.ok "type A = 1;\n", .ok "type B=2"] := by
  intro respond
  have readable (calls : List Call) : (respond calls).IsReadable := by
    match calls with
    | [] => trivial
    | [_] => exact ⟨by decide, by decide⟩
    | [_, _] => exact ⟨by decide, by decide⟩
    | _ :: _ :: _ :: _ => trivial
  have probe : probeCall {} = .ok ⟨["prettier", "--version"], [], some 30000⟩ := by
    rw [probeCall, callOf, limitOf_usual]
    rfl
  have formats (code : Text) :
      formatCall {} code = .ok ⟨["prettier", "--parser", "typescript"], code, some 30000⟩ := by
    rw [formatCall, callOf, limitOf_usual]
    rfl
  have passes : PassesAll respond {} ["type A=1", "type B=2"] := by
    refine (formatEach_passes_iff readable _).mpr (.inr ⟨_, probe, .inr ⟨trivial, _, limitOf_usual⟩, ?_⟩)
    intro _
    simp only [outcomesAfter, callsWith, formats]
    exact List.forall_mem_cons.mpr ⟨⟨_, rfl, trivial⟩,
      List.forall_mem_cons.mpr ⟨⟨_, rfl, trivial⟩, nofun⟩⟩
  refine ⟨readable, passes, ?_⟩
  rw [passes.results, expected_of_probeCall probe]
  simp only [outcomesAfter, callsWith, formats]
  rfl

/-- A program that may not be started is no program that is missing. -/
theorem formatEach_fails_on_directory :
    let settings : FormatterSettings := { command := .array [.string "/"] }
    (formatEach StandIn.respond { settings := settings } ["type A=1"]).1 =
        [.error (.system .permissionDenied)] ∧
      ¬ PassesAll StandIn.respond settings ["type A=1"] := by
  intro settings
  have fails : (formatEach StandIn.respond { settings := settings } ["type A=1"]).1 =
      [.error (.system .permissionDenied)] := rfl
  exact ⟨fails, not_passesAll_of_mem (fails ▸ List.mem_singleton_self _)⟩

end Prettier

end Companion
