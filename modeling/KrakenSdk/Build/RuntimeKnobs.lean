import Mathlib.Data.List.Perm.Basic
import KrakenSdk.Lib.StepSystem
import KrakenSdk.Build.Resolver
/-!
# Knobs at run time (build/client/accessors.rs:68-106, builder.rs:165-180)

`.build()` resolves the knobs and refuses endpoints without TLS; after that only `set_knob` writes them, from any number
of threads: the swap of the atomic is one step and the `ConfigChangedEvent` another.

* `runtime_validated`: what `.build()` checked holds at every point of every run, and what is fixed at build never changes.
* `changes_follow`: the changes of a knob, in the order of their swaps, lead from the built value to the present one, and
  they are the events published and about to be.
-/
namespace KrakenSdk.Build.ConfigResolver

open StepSystem

variable {F : Type}

/-! ## Setting a knob -/

/-- `ConfigChangedEvent` (events.rs:606). -/
structure ConfigChanged (F : Type) where
  knob : KnobName
  previous : KnobValue F
  current : KnobValue F

/-- What `set_knob` refuses. -/
inductive SetKnobError where
  | immutableKnob (knob : String)
  | invalidConfig (detail : String)
  deriving DecidableEq

/-- `set_knob` up to its swap (accessors.rs:78-96). -/
def setKnob (f : Floats F) (knobs : Knobs F) (name : String) (value : KnobValue F) :
    Except SetKnobError (Knobs F × ConfigChanged F) :=
  match KnobName.fromStr name with
  | none => .error (.invalidConfig ("unknown knob `" ++ name ++ "`"))
  | some knob =>
    if knob.isRuntimeMutable then
      match Knobs.setRuntimeKnob f knobs knob value with
      | none => .error (.invalidConfig ("knob `" ++ name ++ "`: value type mismatch"))
      | some (knobs, previous) => .ok (knobs, { knob, previous, current := value })
    else .error (.immutableKnob name)

/-- The knobs, with the events about them: `changes` in the order of the swaps, `toPublish` swapped and not published. -/
structure RuntimeKnobs (F : Type) where
  knobs : Knobs F
  changes : List (ConfigChanged F)
  toPublish : List (ConfigChanged F)
  published : List (ConfigChanged F)

/-- A step of some caller of `set_knob`: its swap, or the publication of the change at a place of `toPublish`. -/
inductive KnobAct (F : Type) where
  | set (name : String) (value : KnobValue F)
  | publish (place : Nat)

namespace RuntimeKnobs

/-- The knobs of a client just built. -/
def new (knobs : Knobs F) : RuntimeKnobs F := { knobs, changes := [], toPublish := [], published := [] }

/-- One step. -/
def step (f : Floats F) (s : RuntimeKnobs F) : KnobAct F → RuntimeKnobs F
  | .set name value =>
    match setKnob f s.knobs name value with
    | .error _ => s
    | .ok (knobs, change) =>
      { s with knobs, changes := s.changes ++ [change], toPublish := s.toPublish ++ [change] }
  | .publish place =>
    match s.toPublish[place]? with
    | none => s
    | some change => { s with toPublish := s.toPublish.eraseIdx place, published := s.published ++ [change] }

/-- The state after a list of steps. -/
def run (f : Floats F) (knobs : Knobs F) (acts : List (KnobAct F)) : RuntimeKnobs F := exec (step f) (new knobs) acts

end RuntimeKnobs

/-! ## What `.build()` checks -/

/-- What holds of the knobs of a client that was built. -/
structure Validated (f : Floats F) (checkRest : Bool) (knobs : Knobs F) : Prop where
  nonzero : ∀ knob ∈ nonzeroKnobs, isZero (knobs.snapshotKnob knob) = false
  staleness : knobs.stalenessWindowMs ≤ stalenessWindowHardCapMs
  apiPct : f.isPct knobs.rateLimitApiWarningPct = true
  tradingPct : f.isPct knobs.rateLimitTradingWarningPct = true
  endpoints : validateEndpointSchemes knobs checkRest = .ok ()

/-- The knobs that `.build()` goes on with (builder.rs:165-180). -/
def buildKnobs (f : Floats F) (parse : String → Except (Option Nat) (List (String × TomlValue F))) (env : Env)
    (file : Option (Except String String)) (builder : List (String × KnobValue F)) (checkRest : Bool) :
    Except BuildError (Resolved F) :=
  match resolve f parse env file builder with
  | .error e => .error (.config e)
  | .ok r =>
    match validateEndpointSchemes r.1 checkRest with
    | .error e => .error e
    | .ok () => .ok r

/-- Both warning thresholds are in their range. -/
def PctOk (f : Floats F) (knobs : Knobs F) : Prop :=
  f.isPct knobs.rateLimitApiWarningPct = true ∧ f.isPct knobs.rateLimitTradingWarningPct = true

theorem pctOk_setRuntimeKnob {f : Floats F} {k k' : Knobs F} {knob : KnobName} {value previous : KnobValue F}
    (h : Knobs.setRuntimeKnob f k knob value = some (k', previous)) (hk : PctOk f k) : PctOk f k' := by
  unfold Knobs.setRuntimeKnob at h
  split at h
  case h_8 => cases h
  case h_6 =>
    split at h
    next hv =>
      obtain ⟨rfl, -⟩ := Prod.mk.inj (Option.some.inj h)
      exact ⟨hv, hk.2⟩
    next => cases h
  case h_7 =>
    split at h
    next hv =>
      obtain ⟨rfl, -⟩ := Prod.mk.inj (Option.some.inj h)
      exact ⟨hk.1, hv⟩
    next => cases h
  all_goals
    obtain ⟨rfl, -⟩ := Prod.mk.inj (Option.some.inj h)
    exact hk

theorem pctOk_applyValue {f : Floats F} {k k' : Knobs F} {knob : KnobName} {value : KnobValue F}
    (h : Knobs.applyValue f k knob value = some k') (hk : PctOk f k) : PctOk f k' := by
  unfold Knobs.applyValue at h
  split at h
  · obtain ⟨⟨k₁, previous⟩, hset, rfl⟩ := Option.map_eq_some_iff.1 h
    exact pctOk_setRuntimeKnob hset hk
  · split at h
    case h_25 => cases h
    all_goals
      obtain rfl := Option.some.inj h
      exact hk

theorem pctOk_stage {α : Type} {f : Floats F} {decode : α → Except ConfigError (Option (KnobName × KnobValue F))}
    {source : ConfigSource} {xs : List α} {st st' : Resolved F} (h : stage f decode source xs st = .ok st')
    (hst : PctOk f st.1) : PctOk f st'.1 := by
  induction xs generalizing st with
  | nil =>
    obtain rfl := Except.ok.inj h
    exact hst
  | cons x xs ih =>
    have hbind : (applyRow f decode source st x).bind (stage f decode source xs) = .ok st' := h
    obtain ⟨st₁, hx, hxs⟩ := bind_eq_ok.1 hbind
    refine ih hxs ?_
    unfold applyRow at hx
    split at hx
    · cases hx
    · rw [← Except.ok.inj hx]
      exact hst
    next knob value _ =>
      unfold apply at hx
      split at hx
      · cases hx
      next knobs ha =>
        rw [← Except.ok.inj hx]
        exact pctOk_applyValue ha hst

theorem stalenessWindowMs_hardCap (knobs : Knobs F) : (hardCap knobs).stalenessWindowMs ≤ stalenessWindowHardCapMs := by
  unfold hardCap
  split
  · exact UInt32.le_refl _
  next hlt => exact UInt32.not_lt.1 hlt

theorem pctOk_hardCap {f : Floats F} {knobs : Knobs F} (h : PctOk f knobs) : PctOk f (hardCap knobs) := by
  unfold hardCap
  split <;> exact h

theorem validated_of_buildKnobs {f : Floats F} {parse : String → Except (Option Nat) (List (String × TomlValue F))} {env : Env}
    {file : Option (Except String String)} {builder : List (String × KnobValue F)} {checkRest : Bool} {r : Resolved F}
    (h : buildKnobs f parse env file builder checkRest = .ok r) : Validated f checkRest r.1 := by
  unfold buildKnobs at h
  split at h
  · cases h
  next r' hresolve =>
    split at h
    · cases h
    next hendpoints =>
      obtain rfl := Except.ok.inj h
      obtain ⟨rows, st₁, st₂, st₃, -, h₁, h₂, h₃, hz, hr⟩ := resolve_eq_ok.1 hresolve
      have hpct : PctOk f (hardCap st₃.1) :=
        pctOk_hardCap (pctOk_stage h₃ (pctOk_stage h₂ (pctOk_stage h₁ ⟨f.pct80_isPct, f.pct80_isPct⟩)))
      rw [hr] at hendpoints ⊢
      exact ⟨rejectZero_ok.1 hz, stalenessWindowMs_hardCap st₃.1, hpct.1, hpct.2, hendpoints⟩

/-! ## Runs -/

/-- `changes` lead from `v` to `v'`, each from where the one before left. -/
def Follows (v : KnobValue F) : List (ConfigChanged F) → KnobValue F → Prop
  | [], v' => v = v'
  | change :: changes, v' => change.previous = v ∧ Follows change.current changes v'

theorem follows_concat {v v' : KnobValue F} {changes : List (ConfigChanged F)} (h : Follows v changes v')
    {change : ConfigChanged F} (hprev : change.previous = v') : Follows v (changes ++ [change]) change.current := by
  induction changes generalizing v with
  | nil =>
    obtain rfl : v = v' := h
    exact ⟨hprev, rfl⟩
  | cons first changes ih => exact ⟨h.1, ih h.2⟩

/-- What a run keeps: of the knobs it started from, and of the events. -/
structure RuntimeOk (f : Floats F) (knobs : Knobs F) (s : RuntimeKnobs F) : Prop where
  fixed : ∀ knob : KnobName, knob.isRuntimeMutable = false → s.knobs.snapshotKnob knob = knobs.snapshotKnob knob
  follows : ∀ knob, Follows (knobs.snapshotKnob knob) (s.changes.filter (·.knob = knob)) (s.knobs.snapshotKnob knob)
  events : (s.published ++ s.toPublish).Perm s.changes
  accepted : ∀ change ∈ s.changes, change.knob.isRuntimeMutable = true ∧ Knobs.accepts f change.knob change.current = true
  pct : PctOk f knobs → PctOk f s.knobs

theorem setKnob_ok {f : Floats F} {knobs knobs' : Knobs F} {name : String} {value : KnobValue F} {change : ConfigChanged F}
    (h : setKnob f knobs name value = .ok (knobs', change)) :
    Knobs.setRuntimeKnob f knobs change.knob value = some (knobs', change.previous) ∧ change.current = value := by
  unfold setKnob at h
  split at h
  · cases h
  · split at h
    · split at h
      · cases h
      next knobs₁ previous hset =>
        obtain ⟨rfl, rfl⟩ := Prod.mk.inj (Except.ok.inj h)
        exact ⟨hset, rfl⟩
    · cases h

theorem runtimeOk_step {f : Floats F} {knobs : Knobs F} {s : RuntimeKnobs F} (h : RuntimeOk f knobs s) (a : KnobAct F) :
    RuntimeOk f knobs (s.step f a) := by
  obtain ⟨hfixed, hfollows, hevents, haccepted, hpct⟩ := h
  cases a with
  | set name value =>
    simp only [RuntimeKnobs.step]
    split
    next => exact ⟨hfixed, hfollows, hevents, haccepted, hpct⟩
    next knobs' change hset =>
      obtain ⟨hswap, hcurrent⟩ := setKnob_ok hset
      obtain ⟨hprevious, hmutable, hsnapshot⟩ := Knobs.snapshotKnob_setRuntimeKnob hswap
      refine ⟨fun knob hknob => ?_, fun knob => ?_, ?_, fun change' hin => ?_, fun h₀ => ?_⟩
      · have hne : knob ≠ change.knob := by
          rintro rfl
          rw [hmutable] at hknob
          cases hknob
        rw [hsnapshot, if_neg hne, hfixed knob hknob]
      · rw [hsnapshot, List.filter_append]
        by_cases hk : change.knob = knob
        · subst hk
          have hone : [change].filter (·.knob = change.knob) = [change] := by simp
          rw [if_pos rfl, hone, ← hcurrent]
          exact follows_concat (hfollows change.knob) hprevious
        · have hne : knob ≠ change.knob := fun heq => hk heq.symm
          have hnone : [change].filter (·.knob = knob) = [] := by simp [hk]
          rw [if_neg hne, hnone, List.append_nil]
          exact hfollows knob
      · rw [← List.append_assoc]
        exact hevents.append_right _
      · rcases List.mem_append.1 hin with hin | hin
        · exact haccepted change' hin
        · rw [List.mem_singleton.1 hin, hcurrent]
          have hsome := Knobs.isSome_setRuntimeKnob f s.knobs change.knob value
          rw [hswap, hmutable] at hsome
          exact ⟨hmutable, by simpa using hsome.symm⟩
      · exact pctOk_setRuntimeKnob hswap (hpct h₀)
  | publish place =>
    simp only [RuntimeKnobs.step]
    split
    next => exact ⟨hfixed, hfollows, hevents, haccepted, hpct⟩
    next change hget =>
      refine ⟨hfixed, hfollows, ?_, haccepted, hpct⟩
      obtain ⟨hlt, rfl⟩ := List.getElem?_eq_some_iff.1 hget
      have hperm : (s.toPublish[place] :: s.toPublish.eraseIdx place).Perm s.toPublish :=
        List.getElem_cons_eraseIdx_perm hlt
      rw [List.append_assoc, List.singleton_append]
      exact (hperm.append_left _).trans hevents

theorem runtimeOk_run (f : Floats F) (knobs : Knobs F) (acts : List (KnobAct F)) :
    RuntimeOk f knobs (RuntimeKnobs.run f knobs acts) := by
  refine (reach_anyStep _ acts).invariant ?_ fun _ a h _ => runtimeOk_step h a
  exact ⟨fun _ _ => rfl, fun _ => rfl, .nil, by simp [RuntimeKnobs.new], id⟩

/-- **The changes of a knob follow one another.** In every run of any number of callers, the changes of
each knob in the order of their swaps lead from its value at build to its value now, the events published
and about to be are these changes, and each is to a value its knob accepts. -/
theorem changes_follow (f : Floats F) (knobs : Knobs F) (acts : List (KnobAct F)) :
    let s := RuntimeKnobs.run f knobs acts
    (∀ knob, Follows (knobs.snapshotKnob knob) (s.changes.filter (·.knob = knob)) (s.knobs.snapshotKnob knob)) ∧
      (s.published ++ s.toPublish).Perm s.changes ∧
      ∀ change ∈ s.changes, change.knob.isRuntimeMutable = true ∧ Knobs.accepts f change.knob change.current = true := by
  intro s
  have h : RuntimeOk f knobs s := runtimeOk_run f knobs acts
  exact ⟨h.follows, h.events, h.accepted⟩

/-! ## What `.build()` checked stays so -/

theorem validateEndpointSchemes_congr {knobs knobs' : Knobs F} (hrest : knobs'.restBaseUrl = knobs.restBaseUrl)
    (hpublic : knobs'.wsPublicUrl = knobs.wsPublicUrl) (hauth : knobs'.wsAuthUrl = knobs.wsAuthUrl) (checkRest : Bool) :
    validateEndpointSchemes knobs' checkRest = validateEndpointSchemes knobs checkRest := by
  unfold validateEndpointSchemes
  rw [hrest, hpublic, hauth]

theorem validated_of_fixed {f : Floats F} {checkRest : Bool} {knobs knobs' : Knobs F} (h : Validated f checkRest knobs)
    (hfixed : ∀ knob : KnobName, knob.isRuntimeMutable = false → knobs'.snapshotKnob knob = knobs.snapshotKnob knob)
    (hpct : PctOk f knobs') : Validated f checkRest knobs' := by
  refine ⟨fun knob hknob => ?_, ?_, hpct.1, hpct.2, ?_⟩
  · have hconstruction : knob.isRuntimeMutable = false := by
      revert knob
      decide
    rw [hfixed knob hconstruction]
    exact h.nonzero knob hknob
  · have hwindow := KnobValue.u32.inj (hfixed .stalenessWindowMs rfl)
    rw [hwindow]
    exact h.staleness
  · have hrest := KnobValue.str.inj (hfixed .restBaseUrl rfl)
    have hpublic := KnobValue.str.inj (hfixed .wsPublicUrl rfl)
    have hauth := KnobValue.str.inj (hfixed .wsAuthUrl rfl)
    rw [validateEndpointSchemes_congr hrest hpublic hauth]
    exact h.endpoints

/-- **What `.build()` checked holds for the life of the client**: in every run of `set_knob` from what it built, no
capacity or backoff is zero, the staleness window is under its cap, the thresholds are fractions and the endpoints are
TLS; and no knob that is fixed at build has changed. -/
theorem runtime_validated {f : Floats F} {parse : String → Except (Option Nat) (List (String × TomlValue F))} {env : Env}
    {file : Option (Except String String)} {builder : List (String × KnobValue F)} {checkRest : Bool} {r : Resolved F}
    (h : buildKnobs f parse env file builder checkRest = .ok r) (acts : List (KnobAct F)) :
    Validated f checkRest (RuntimeKnobs.run f r.1 acts).knobs ∧ ∀ knob : KnobName, knob.isRuntimeMutable = false →
      (RuntimeKnobs.run f r.1 acts).knobs.snapshotKnob knob = r.1.snapshotKnob knob := by
  have hvalidated := validated_of_buildKnobs h
  have hok := runtimeOk_run f r.1 acts
  exact ⟨validated_of_fixed hvalidated hok.fixed (hok.pct ⟨hvalidated.apiPct, hvalidated.tradingPct⟩), hok.fixed⟩

/-- Fractions in hundredths, for a configuration with no text of a float in it. -/
def hundredths : Floats Nat where
  parse _ := none
  isPct n := n ≤ 100
  one := 100
  two := 200
  pct80 := 80
  pct80_isPct := by decide

/-- An environment with nothing of the SDK in it. -/
def noVariables : Env where
  var _ := none
  absent _ _ := rfl

/-- A builder that asks for a window over the cap. -/
def longWindow : Except BuildError (Resolved Nat) :=
  buildKnobs hundredths (fun _ => .ok []) noVariables none [("staleness_window_ms", .u32 60000)] true

theorem runtime_validated_longWindow : ∃ r, longWindow = .ok r ∧
    Validated hundredths true (RuntimeKnobs.run hundredths r.1 [.set "rate_limit_api_warning_pct" (.f64 90)]).knobs := by
  have hbuilt : ∃ r, longWindow = .ok r := ⟨_, rfl⟩
  obtain ⟨r, hr⟩ := hbuilt
  exact ⟨r, hr, (runtime_validated hr _).1⟩

end KrakenSdk.Build.ConfigResolver
