import Companion.Proofs.Formatter.Prettier

/-!
# Formatting in a world that forgets

A world may answer every call by itself, as that of the stand-in programs does. Then a formatter that
is handed codes in a row does to each what it does to that code alone: what it remembers of its
program is what it would find out again.
-/

set_option autoImplicit false

namespace Companion

/-- Every call is answered by itself, whatever was called before. -/
def Responder.Forgets (respond : Responder) : Prop :=
  ∀ call before, respond (call :: before) = respond [call]

theorem StandIn.forgets_respond : StandIn.respond.Forgets := fun _ _ => rfl

namespace Prettier

variable {respond : Responder} {settings : FormatterSettings} {prettier : Prettier}

theorem call_of_forgets (forgets : respond.Forgets) (same : prettier.settings = settings)
    (arguments : List Value) (input : Text) :
    (call respond prettier arguments input).1 =
        (call respond { settings := settings } arguments input).1 ∧
      (call respond prettier arguments input).2.settings = settings ∧
      (call respond prettier arguments input).2.installed = prettier.installed := by
  subst same
  rw [call_eq, call_eq]
  cases callOf prettier.settings (.ok arguments) input with
  | error failure => exact ⟨rfl, rfl, rfl⟩
  | ok made => exact ⟨congrArg (seen prettier.settings) (forgets made prettier.calls), rfl, rfl⟩

theorem probe_of_forgets (forgets : respond.Forgets) (same : prettier.settings = settings) :
    (probe respond prettier).result = (probe respond { settings := settings }).result ∧
      (probe respond prettier).prettier.settings = settings ∧
      ∀ found, (probe respond prettier).prettier.installed = some found →
        prettier.installed = some found ∨ (probe respond prettier).result = .ok found := by
  unfold probe
  rw [same]
  cases asked : probeArguments settings with
  | error failure => exact ⟨rfl, same, fun _ => .inl⟩
  | ok arguments =>
      obtain ⟨outcome, settingsKept, installedKept⟩ := call_of_forgets forgets same arguments []
      dsimp only
      generalize call respond prettier arguments [] = called at *
      generalize call respond { settings := settings } arguments [] = fresh at *
      obtain ⟨seen, after⟩ := called
      obtain ⟨seenFresh, afterFresh⟩ := fresh
      obtain rfl : seen = seenFresh := outcome
      have untouched : ∀ found, after.installed = some found → prettier.installed = some found :=
        fun found known => installedKept ▸ known
      have remembered (installed : Bool) (found : Bool) (known : some installed = some found) :
          (.ok installed : Except Failure Bool) = .ok found := congrArg _ (Option.some.inj known)
      cases seen with
      | error failure => exact ⟨rfl, settingsKept, fun found known => .inl (untouched found known)⟩
      | ok outcome =>
          cases outcome with
          | refused failure =>
              cases failure with
              | missing =>
                  exact ⟨rfl, settingsKept, fun found known => .inr (remembered false found known)⟩
              | _ => exact ⟨rfl, settingsKept, fun found known => .inl (untouched found known)⟩
          | timedOut =>
              exact ⟨rfl, settingsKept, fun found known => .inr (remembered false found known)⟩
          | exited status output errors =>
              dsimp only
              split
              · exact ⟨rfl, settingsKept, fun found known => .inr (remembered _ found known)⟩
              · exact ⟨rfl, settingsKept, fun found known => .inl (untouched found known)⟩

theorem formatWith_of_forgets (forgets : respond.Forgets) (same : prettier.settings = settings)
    (code : Text) :
    (formatWith respond prettier code).result =
        (formatWith respond { settings := settings } code).result ∧
      (formatWith respond prettier code).prettier.settings = settings ∧
      (formatWith respond prettier code).prettier.installed = prettier.installed := by
  unfold formatWith
  rw [same]
  cases asked : formatArguments settings with
  | error failure => exact ⟨rfl, same, rfl⟩
  | ok arguments =>
      obtain ⟨outcome, kept⟩ := call_of_forgets forgets same arguments code
      dsimp only
      generalize call respond prettier arguments code = called at *
      generalize call respond { settings := settings } arguments code = fresh at *
      obtain ⟨seen, after⟩ := called
      obtain ⟨seenFresh, afterFresh⟩ := fresh
      obtain rfl : seen = seenFresh := outcome
      cases seen with
      | error failure => exact ⟨rfl, kept⟩
      | ok outcome =>
          cases outcome with
          | refused failure => exact ⟨rfl, kept⟩
          | timedOut => exact ⟨rfl, kept⟩
          | exited status output errors =>
              dsimp only
              split
              · split <;> exact ⟨rfl, kept⟩
              · exact ⟨rfl, kept⟩

/-- What is known of the program is what a new formatter finds out. -/
def KnowsRightly (respond : Responder) (prettier : Prettier) : Prop :=
  ∀ found, prettier.installed = some found →
    (probe respond { settings := prettier.settings }).result = .ok found

theorem isInstalled_of_forgets (forgets : respond.Forgets) (same : prettier.settings = settings)
    (knows : KnowsRightly respond prettier) :
    (isInstalled respond prettier).result = (probe respond { settings := settings }).result ∧
      (isInstalled respond prettier).prettier.settings = settings ∧
      KnowsRightly respond (isInstalled respond prettier).prettier := by
  subst same
  rw [isInstalled]
  cases known : prettier.installed with
  | some installed => exact ⟨(knows installed known).symm, rfl, knows⟩
  | none =>
      obtain ⟨result, kept, learnt⟩ := probe_of_forgets forgets rfl
      refine ⟨result, kept, fun found nowKnown => ?_⟩
      rw [kept]
      cases learnt found nowKnown with
      | inl before => cases known.symm.trans before
      | inr asked => exact result.symm.trans asked

theorem format_of_forgets (forgets : respond.Forgets) (same : prettier.settings = settings)
    (knows : KnowsRightly respond prettier) (code : Text) :
    (format respond prettier code).result =
        (format respond { settings := settings } code).result ∧
      (format respond prettier code).prettier.settings = settings ∧
      KnowsRightly respond (format respond prettier code).prettier := by
  obtain ⟨result, kept, right⟩ := isInstalled_of_forgets forgets same knows
  obtain ⟨resultFresh, keptFresh, -⟩ :=
    isInstalled_of_forgets forgets (rfl : ({ settings := settings } : Prettier).settings = _) nofun
  rw [format, format]
  generalize isInstalled respond prettier = asked at *
  generalize isInstalled respond { settings := settings } = askedFresh at *
  obtain ⟨outcome, after, log⟩ := asked
  obtain ⟨outcomeFresh, afterFresh, logFresh⟩ := askedFresh
  obtain rfl : outcome = outcomeFresh := result.trans resultFresh.symm
  cases outcome with
  | error failure => exact ⟨rfl, kept, right⟩
  | ok installed =>
      cases installed with
      | false => exact ⟨rfl, kept, right⟩
      | true =>
          obtain ⟨formatted, settingsKept, installedKept⟩ := formatWith_of_forgets forgets kept code
          obtain ⟨formattedFresh, -⟩ := formatWith_of_forgets forgets keptFresh code
          refine ⟨formatted.trans formattedFresh.symm, settingsKept, fun found known => ?_⟩
          rw [settingsKept, ← kept]
          exact right found (installedKept ▸ known)

/-- In a world that forgets, codes in a row are formatted as each is alone. -/
theorem formatEach_of_forgets (forgets : respond.Forgets) (settings : FormatterSettings)
    (codes : List Text) :
    (formatEach respond { settings := settings } codes).1 =
      codes.map fun code => (format respond { settings := settings } code).result := by
  suffices inARow : ∀ prettier : Prettier, prettier.settings = settings →
      KnowsRightly respond prettier → (formatEach respond prettier codes).1 =
        codes.map fun code => (format respond { settings := settings } code).result from
    inARow _ rfl nofun
  induction codes with
  | nil => exact fun _ _ _ => rfl
  | cons code rest ih =>
      intro prettier same knows
      obtain ⟨result, kept, stillKnows⟩ := format_of_forgets forgets same knows code
      rw [formatEach_cons, result, ih _ kept stillKnows, List.map_cons]

end Prettier

end Companion
