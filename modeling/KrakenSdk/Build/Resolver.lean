import Mathlib.Data.String.Basic
import KrakenSdk.Build.Knobs
import KrakenSdk.Lib.BTreeMap
/-!
# Resolving the configuration (build/config_resolver.rs:27-190, 260-360)

`resolve` layers the config file, the environment and the builder's overrides over the defaults, one `apply` after the
other, and stamps who set what. Here the layers are compared with what they come to: one winner for each knob.

| here | source |
| --- | --- |
| `stage` | one of the three loops of `resolve`: decode a row, `apply` it |
| `decodeToml`, `decodeEnv`, `decodeBuilder` | what each loop reads its rows as |
| `winner` | builder over environment over file over default |

The TOML parser is a parameter: it gives the rows of the table, or where it failed.

* `resolve_winner`: what is resolved is the winner of every knob, and the source map names it.
* `resolves_iff`: when it is resolved at all.
-/
namespace KrakenSdk.Build.ConfigResolver

open KrakenSdk.Trade (parseUnsigned strTrim)

variable {F : Type}

/-- `ConfigSource` (config_resolver.rs:15). -/
inductive ConfigSource where
  | builder | env | file | default
  deriving DecidableEq, Repr

/-- `ConfigSource` as `strum::Display` shows it. -/
def ConfigSource.toText : ConfigSource → String
  | .builder => "Builder"
  | .env => "Env"
  | .file => "File"
  | .default => "Default"

/-- `SourceMap` (config_resolver.rs:29). -/
abbrev SourceMap := BTreeMap String ConfigSource

/-- `toml::Value`; a date, an array or a table is `other`. -/
inductive TomlValue (F : Type) where
  | string (s : String)
  | integer (i : Int)
  | float (x : F)
  | boolean (b : Bool)
  | other

/-! ## Reading values -/

/-- `u32::try_from` of an `i64`. -/
def u32OfInt (i : Int) : Option UInt32 := if 0 ≤ i ∧ i < 2 ^ 32 then some (UInt32.ofNat i.toNat) else none

/-- `usize::try_from` of an `i64`. -/
def usizeOfInt (i : Int) : Option UInt64 := if 0 ≤ i then some (UInt64.ofNat i.toNat) else none

/-- `str::parse::<u32>`. -/
def parseU32 (s : String) : Option UInt32 :=
  (parseUnsigned s).bind fun n => if n < 2 ^ 32 then some (UInt32.ofNat n) else none

/-- `str::parse::<usize>`. -/
def parseUsize (s : String) : Option UInt64 := (parseUnsigned s).map UInt64.ofNat

/-- `str::parse::<bool>`. -/
def parseBool (s : String) : Option Bool := if s = "true" then some true else if s = "false" then some false else none

/-- `eq_ignore_ascii_case`. -/
def eqIgnoreAsciiCase (s t : List Char) : Bool := s.map Char.toLower = t.map Char.toLower

/-- `parse_env_value` (config_resolver.rs:291). -/
def parseEnvValue (f : Floats F) (knob : KnobName) (raw : String) : Option (KnobValue F) :=
  let raw := strTrim raw
  match knob with
  | .backoffJitter | .backoffFactor | .restRetryFactor | .rateLimitApiWarningPct | .rateLimitTradingWarningPct =>
    (f.parse raw).map .f64
  | .rateLimitTradingScopeCap | .clOrdIdIndexCap => (parseUsize raw).map .usize
  | .reconnectAttempts | .wsOrderResponseDeadlineMs =>
    if raw = "" ∨ eqIgnoreAsciiCase raw.toList "none".toList then some (.optU32 none)
    else (parseU32 raw).map fun v => .optU32 (some v)
  | .nonceRecovery | .preferRestForOrders => (parseBool raw).map .bool
  | .restBaseUrl | .wsPublicUrl | .wsAuthUrl => if raw = "" then none else some (.str raw)
  | _ => (parseU32 raw).map .u32

/-- `toml_to_knob_value` (config_resolver.rs:325). -/
def tomlToKnobValue (f : Floats F) (knob : KnobName) (tv : TomlValue F) : Option (KnobValue F) :=
  match knob with
  | .backoffJitter | .backoffFactor | .restRetryFactor | .rateLimitApiWarningPct | .rateLimitTradingWarningPct =>
    match tv with
    | .float x => some (.f64 x)
    | _ => none
  | .rateLimitTradingScopeCap | .clOrdIdIndexCap =>
    match tv with
    | .integer i => (usizeOfInt i).map .usize
    | _ => none
  | .reconnectAttempts | .wsOrderResponseDeadlineMs =>
    match tv with
    | .integer i => (u32OfInt i).map fun v => .optU32 (some v)
    | .string s => parseEnvValue f knob s
    | _ => none
  | .nonceRecovery | .preferRestForOrders =>
    match tv with
    | .boolean b => some (.bool b)
    | _ => none
  | .restBaseUrl | .wsPublicUrl | .wsAuthUrl =>
    match tv with
    | .string s => if strTrim s = "" then none else some (.str (strTrim s))
    | _ => none
  | _ =>
    match tv with
    | .integer i => (u32OfInt i).map .u32
    | _ => none

/-! ## The rows of each source -/

/-- A row of the config file. -/
def decodeToml (f : Floats F) (row : String × TomlValue F) : Except ConfigError (Option (KnobName × KnobValue F)) :=
  let unknown := ConfigError.invalidConfig ("config file: unknown or wrong-typed knob `" ++ row.1 ++ "`")
  match KnobName.fromStr row.1 with
  | none => .error unknown
  | some knob =>
    match tomlToKnobValue f knob row.2 with
    | none => .error unknown
    | some value => .ok (some (knob, value))

/-- The variable of a knob. -/
def envKey (knob : KnobName) : String := "KRAKEN_" ++ knob.asStr.toUpper

/-- A turn of the loop over the environment: an unset variable, or a blank one of a URL, is passed over. -/
def decodeEnv (f : Floats F) (env : Env) (knob : KnobName) : Except ConfigError (Option (KnobName × KnobValue F)) :=
  match env.var (envKey knob) with
  | none => .ok none
  | some raw =>
    if strTrim raw = "" ∧ knob.isStringKnob then .ok none
    else
      match parseEnvValue f knob raw with
      | none =>
        .error (.invalidConfig ("env " ++ envKey knob ++ ": cannot parse value for knob `" ++ knob.asStr ++ "`"))
      | some value => .ok (some (knob, value))

/-- An override of the builder. -/
def decodeBuilder (row : String × KnobValue F) : Except ConfigError (Option (KnobName × KnobValue F)) :=
  match KnobName.fromStr row.1 with
  | none => .error (.invalidConfig ("unknown or wrong-typed knob `" ++ row.1 ++ "` from Builder"))
  | some knob => .ok (some (knob, row.2))

/-! ## Resolving -/

/-- What is resolved so far. -/
abbrev Resolved (F : Type) := Knobs F × SourceMap

/-- `apply` (config_resolver.rs:185). -/
def apply (f : Floats F) (st : Resolved F) (knob : KnobName) (value : KnobValue F) (source : ConfigSource) :
    Except ConfigError (Resolved F) :=
  match Knobs.applyValue f st.1 knob value with
  | none =>
    .error (.invalidConfig ("unknown or wrong-typed knob `" ++ knob.asStr ++ "` from " ++ source.toText))
  | some knobs => .ok (knobs, st.2.insert knob.asStr source)

/-- One row of one source. -/
def applyRow {α : Type} (f : Floats F) (decode : α → Except ConfigError (Option (KnobName × KnobValue F)))
    (source : ConfigSource) (st : Resolved F) (x : α) : Except ConfigError (Resolved F) :=
  match decode x with
  | .error e => .error e
  | .ok none => .ok st
  | .ok (some (knob, value)) => apply f st knob value source

/-- The rows of one source, in order. -/
def stage {α : Type} (f : Floats F) (decode : α → Except ConfigError (Option (KnobName × KnobValue F)))
    (source : ConfigSource) (xs : List α) (st : Resolved F) : Except ConfigError (Resolved F) :=
  xs.foldlM (applyRow f decode source) st

/-- Where the parser stopped, in lines and bytes (config_resolver.rs:76-84). -/
def parsePosition (text : List UInt8) (start : Nat) : String :=
  let head := text.take start
  let line := head.count 10 + 1
  let col := (head.reverse.takeWhile (· ≠ 10)).length + 1
  " at line " ++ toString line ++ ", column " ++ toString col

/-- The source text after interpolation. The call never panics (`interpolateEnv_eq_scan`). -/
def interpolatedText (env : Env) (raw : String) : Except ConfigError String :=
  match interpolateEnv env raw with
  | none => .ok ""
  | some reading => reading.result.map String.ofList

/-- The rows of the config file: read, interpolated and parsed. -/
def fileRows (parse : String → Except (Option Nat) (List (String × TomlValue F))) (env : Env)
    (file : Except String String) : Except ConfigError (List (String × TomlValue F)) :=
  match file with
  | .error e => .error (.invalidConfig ("config file read failed: " ++ e))
  | .ok raw =>
    match interpolatedText env raw with
    | .error e => .error e
    | .ok text =>
      match parse text with
      | .error span =>
        let at_ := (span.map (parsePosition (Utf8.bytes text.toList))).getD ""
        .error (.invalidConfig ("config file parse failed" ++ at_))
      | .ok table => .ok table

/-- `STALENESS_WINDOW_HARD_CAP_MS` (config_resolver.rs:139). -/
def stalenessWindowHardCapMs : UInt32 := 55000

/-- The hard cap (config_resolver.rs:140-142). -/
def hardCap (knobs : Knobs F) : Knobs F :=
  if stalenessWindowHardCapMs < knobs.stalenessWindowMs then { knobs with stalenessWindowMs := stalenessWindowHardCapMs }
  else knobs

/-- The knobs that may not be zero, in the order they are checked (config_resolver.rs:145-180). -/
def nonzeroKnobs : List KnobName :=
  [.callerToIoCapacity, .ioToDispatchCapacity, .connectionRateBudget, .backoffBaseMs, .backoffMaxMs, .restRetryBaseMs,
    .restRetryMaxMs, .rateLimitTradingScopeCap, .clOrdIdIndexCap]

/-- A zero of either width. -/
def isZero : KnobValue F → Bool
  | .u32 v => v = 0
  | .usize v => v = 0
  | _ => false

/-- The last checks of `resolve`. -/
def rejectZero (knobs : Knobs F) : Except ConfigError Unit :=
  match nonzeroKnobs.find? fun knob => isZero (knobs.snapshotKnob knob) with
  | some knob => .error (.invalidConfig ("knob `" ++ knob.asStr ++ "` must be >= 1 (got 0)"))
  | none => .ok ()

/-- Who is not named yet is the default (config_resolver.rs:132-136). -/
def nameDefaults (map : SourceMap) : SourceMap :=
  KnobName.all.foldl (fun map knob => map.orInsert knob.asStr .default) map

/-- `resolve` (config_resolver.rs:65). `file` is the config file as it is read, if one was named. -/
def resolve (f : Floats F) (parse : String → Except (Option Nat) (List (String × TomlValue F))) (env : Env)
    (file : Option (Except String String)) (builder : List (String × KnobValue F)) : Except ConfigError (Resolved F) := do
  let rows ← match file with
    | none => .ok []
    | some file => fileRows parse env file
  let st ← stage f (decodeToml f) .file rows (Knobs.defaults f, .empty)
  let st ← stage f (decodeEnv f env) .env KnobName.all st
  let st ← stage f decodeBuilder .builder builder st
  let knobs := hardCap st.1
  rejectZero knobs
  .ok (knobs, nameDefaults st.2)

/-! ## What a layer comes to -/

/-- The rows of a source, decoded. -/
def rowsOf {α : Type} (decode : α → Except ConfigError (Option (KnobName × KnobValue F))) (xs : List α) :
    List (KnobName × KnobValue F) :=
  xs.filterMap fun x =>
    match decode x with
    | .ok row => row
    | .error _ => none

/-- The last row of a knob. -/
def lastFor (rows : List (KnobName × KnobValue F)) (knob : KnobName) : Option (KnobValue F) :=
  (rows.filter (·.1 = knob)).getLast?.map (·.2)

theorem lastFor_cons (row : KnobName × KnobValue F) (rows : List (KnobName × KnobValue F)) (knob : KnobName) :
    lastFor (row :: rows) knob = (lastFor rows knob).or (if row.1 = knob then some row.2 else none) := by
  unfold lastFor
  by_cases hk : row.1 = knob
  · cases hr : rows.filter (·.1 = knob) with
    | nil => simp [hk, hr]
    | cons p ps => simp [hk, hr, List.getLast?_cons]
  · simp [hk]

/-- A row that decodes to what its knob accepts. -/
def RowOk {α : Type} (f : Floats F) (decode : α → Except ConfigError (Option (KnobName × KnobValue F))) (x : α) : Prop :=
  ∃ row, decode x = .ok row ∧ ∀ knob value, row = some (knob, value) → Knobs.accepts f knob value = true

/-- What a layer leaves of a state. -/
structure Layered (rows : List (KnobName × KnobValue F)) (source : ConfigSource) (st st' : Resolved F) : Prop where
  value : ∀ knob, st'.1.snapshotKnob knob = (lastFor rows knob).getD (st.1.snapshotKnob knob)
  named : ∀ knob, st'.2.get? knob.asStr = if (lastFor rows knob).isSome then some source else st.2.get? knob.asStr
  keys : ∀ name, (st'.2.get? name).isSome → (st.2.get? name).isSome ∨ ∃ knob : KnobName, name = knob.asStr

theorem apply_ok {f : Floats F} {st st' : Resolved F} {knob : KnobName} {value : KnobValue F} {source : ConfigSource}
    (h : apply f st knob value source = .ok st') : Layered [(knob, value)] source st st' := by
  unfold apply at h
  cases ha : Knobs.applyValue f st.1 knob value with
  | none => simp [ha] at h
  | some knobs =>
    rw [ha] at h
    obtain rfl := Except.ok.inj h
    have hsnapshot := Knobs.snapshotKnob_applyValue ha
    refine ⟨fun n => ?_, fun n => ?_, fun name hname => ?_⟩
    · rw [hsnapshot n, lastFor_cons]
      by_cases hn : n = knob
      · simp [hn, lastFor]
      · have hn' : ¬ knob = n := fun heq => hn heq.symm
        simp [hn, hn', lastFor]
    · rw [BTreeMap.get?_insert, lastFor_cons]
      simp only [KnobName.asStr_inj]
      by_cases hn : n = knob
      · simp [hn, lastFor]
      · have hn' : ¬ knob = n := fun heq => hn heq.symm
        simp [hn, hn', lastFor]
    · rw [BTreeMap.get?_insert] at hname
      by_cases hk : name = knob.asStr
      · exact .inr ⟨knob, hk⟩
      · rw [if_neg hk] at hname
        exact .inl hname

theorem layered_nil (source : ConfigSource) (st : Resolved F) : Layered [] source st st :=
  ⟨fun _ => rfl, fun _ => rfl, fun _ h => .inl h⟩

theorem layered_cons {row : KnobName × KnobValue F} {rows : List (KnobName × KnobValue F)} {source : ConfigSource}
    {st st' st'' : Resolved F} (h : Layered [row] source st st') (h' : Layered rows source st' st'') :
    Layered (row :: rows) source st st'' := by
  have hone : ∀ knob, lastFor [row] knob = if row.1 = knob then some row.2 else none := by
    intro knob
    rw [lastFor_cons]
    simp [lastFor]
  refine ⟨fun knob => ?_, fun knob => ?_, fun name hname => ?_⟩
  · rw [h'.value, h.value, hone, lastFor_cons]
    cases lastFor rows knob <;> simp
  · rw [h'.named, h.named, hone, lastFor_cons]
    cases lastFor rows knob <;> simp
  · rcases h'.keys name hname with hin | hk
    · exact h.keys name hin
    · exact .inr hk

/-- A row that goes through, and what it leaves. -/
theorem applyRow_ok {α : Type} {f : Floats F} {decode : α → Except ConfigError (Option (KnobName × KnobValue F))}
    {source : ConfigSource} {st st' : Resolved F} {x : α} (h : applyRow f decode source st x = .ok st') :
    RowOk f decode x ∧ Layered (rowsOf decode [x]) source st st' := by
  unfold applyRow at h
  cases hd : decode x with
  | error e => simp [hd] at h
  | ok row =>
    cases row with
    | none =>
      rw [hd] at h
      obtain rfl := Except.ok.inj h
      have hrows : rowsOf decode [x] = [] := by simp [rowsOf, hd]
      rw [hrows]
      exact ⟨⟨none, hd, by simp⟩, layered_nil source st⟩
    | some row =>
      obtain ⟨knob, value⟩ := row
      rw [hd] at h
      have hrows : rowsOf decode [x] = [(knob, value)] := by simp [rowsOf, hd]
      rw [hrows]
      refine ⟨⟨some (knob, value), hd, ?_⟩, apply_ok h⟩
      intro knob' value' heq
      obtain ⟨rfl, rfl⟩ := Prod.mk.inj (Option.some.inj heq)
      rw [← Knobs.isSome_applyValue f st.1]
      dsimp only [apply] at h
      cases ha : Knobs.applyValue f st.1 knob value with
      | none => simp [ha] at h
      | some knobs => rfl

theorem applyRow_of_rowOk {α : Type} {f : Floats F} {decode : α → Except ConfigError (Option (KnobName × KnobValue F))}
    (source : ConfigSource) (st : Resolved F) {x : α} (h : RowOk f decode x) :
    ∃ st', applyRow f decode source st x = .ok st' := by
  obtain ⟨row, hd, haccepts⟩ := h
  cases row with
  | none => exact ⟨st, by simp [applyRow, hd]⟩
  | some row =>
    obtain ⟨knob, value⟩ := row
    have hsome := haccepts knob value rfl
    rw [← Knobs.isSome_applyValue f st.1] at hsome
    obtain ⟨knobs, hknobs⟩ := Option.isSome_iff_exists.1 hsome
    exact ⟨(knobs, st.2.insert knob.asStr source), by simp [applyRow, hd, apply, hknobs]⟩

/-- **A layer** goes through exactly if its rows do, and the last row of each knob is what counts of it. -/
theorem stage_ok {α : Type} {f : Floats F} {decode : α → Except ConfigError (Option (KnobName × KnobValue F))}
    {source : ConfigSource} {xs : List α} {st st' : Resolved F} (h : stage f decode source xs st = .ok st') :
    (∀ x ∈ xs, RowOk f decode x) ∧ Layered (rowsOf decode xs) source st st' := by
  induction xs generalizing st with
  | nil =>
    obtain rfl := Except.ok.inj h
    exact ⟨by simp, layered_nil source st⟩
  | cons x xs ih =>
    have hbind : (applyRow f decode source st x).bind (stage f decode source xs) = .ok st' := h
    cases hx : applyRow f decode source st x with
    | error e =>
      rw [hx] at hbind
      cases hbind
    | ok st₁ =>
      rw [hx] at hbind
      obtain ⟨hok, hlayer⟩ := applyRow_ok hx
      obtain ⟨hoks, hlayers⟩ := ih hbind
      refine ⟨by simpa using ⟨hok, hoks⟩, ?_⟩
      have hrows : rowsOf decode (x :: xs) = rowsOf decode [x] ++ rowsOf decode xs := by
        rw [rowsOf, rowsOf, rowsOf, ← List.filterMap_append, List.singleton_append]
      rw [hrows]
      cases hr : rowsOf decode [x] with
      | nil =>
        rw [hr] at hlayer
        refine ⟨fun knob => ?_, fun knob => ?_, fun name hname => ?_⟩
        · rw [List.nil_append, hlayers.value, hlayer.value]
          rfl
        · rw [List.nil_append, hlayers.named, hlayer.named]
          rfl
        · rcases hlayers.keys name hname with hin | hk
          · exact hlayer.keys name hin
          · exact .inr hk
      | cons row rest =>
        have hrest : rest = [] := by
          have hlen : (rowsOf decode [x]).length ≤ 1 := List.length_filterMap_le _ _
          rw [hr] at hlen
          simpa using hlen
        rw [hr, hrest] at hlayer
        rw [hrest, List.singleton_append]
        exact layered_cons hlayer hlayers

theorem stage_of_rowOk {α : Type} {f : Floats F} {decode : α → Except ConfigError (Option (KnobName × KnobValue F))}
    (source : ConfigSource) {xs : List α} (h : ∀ x ∈ xs, RowOk f decode x) (st : Resolved F) :
    ∃ st', stage f decode source xs st = .ok st' := by
  induction xs generalizing st with
  | nil => exact ⟨st, rfl⟩
  | cons x xs ih =>
    obtain ⟨st₁, hx⟩ := applyRow_of_rowOk source st (h x (by simp))
    obtain ⟨st', hxs⟩ := ih (fun y hy => h y (by simp [hy])) st₁
    refine ⟨st', ?_⟩
    show (applyRow f decode source st x).bind (stage f decode source xs) = .ok st'
    rw [hx]
    exact hxs

/-! ## The winner of a knob -/

/-- The value of a knob and who set it: the last override of the builder, else its variable, else the last row of the
file, else the default. -/
def winner (f : Floats F) (env : Env) (rows : List (String × TomlValue F)) (builder : List (String × KnobValue F))
    (knob : KnobName) : KnobValue F × ConfigSource :=
  match lastFor (rowsOf decodeBuilder builder) knob with
  | some value => (value, .builder)
  | none =>
    match lastFor (rowsOf (decodeEnv f env) [knob]) knob with
    | some value => (value, .env)
    | none =>
      match lastFor (rowsOf (decodeToml f) rows) knob with
      | some value => (value, .file)
      | none => ((Knobs.defaults f).snapshotKnob knob, .default)

theorem decodeEnv_knob {f : Floats F} {env : Env} {knob knob' : KnobName} {value : KnobValue F}
    (h : decodeEnv f env knob = .ok (some (knob', value))) : knob' = knob := by
  unfold decodeEnv at h
  split at h
  · cases h
  · split at h
    · cases h
    · split at h
      · cases h
      · obtain ⟨rfl, -⟩ := Prod.mk.inj (Option.some.inj (Except.ok.inj h))
        rfl

/-- The variable of a knob is read once, and no other is read for it. -/
theorem lastFor_env (f : Floats F) (env : Env) (knob : KnobName) :
    lastFor (rowsOf (decodeEnv f env) KnobName.all) knob = lastFor (rowsOf (decodeEnv f env) [knob]) knob := by
  have hfilter : ∀ xs : List KnobName, (rowsOf (decodeEnv f env) xs).filter (·.1 = knob) =
      rowsOf (decodeEnv f env) (xs.filter (· = knob)) := by
    intro xs
    induction xs with
    | nil => rfl
    | cons x xs ih =>
      have hsplit : ∀ ys, rowsOf (decodeEnv f env) (x :: ys) =
          rowsOf (decodeEnv f env) [x] ++ rowsOf (decodeEnv f env) ys := by
        intro ys
        rw [rowsOf, rowsOf, rowsOf, ← List.filterMap_append, List.singleton_append]
      have hone : ∀ row ∈ rowsOf (decodeEnv f env) [x], row.1 = x := by
        intro row hrow
        obtain ⟨y, hy, hdec⟩ := List.mem_filterMap.1 hrow
        rw [List.mem_singleton.1 hy] at hdec
        cases hd : decodeEnv f env x with
        | error e => simp [hd] at hdec
        | ok r =>
          rw [hd] at hdec
          obtain rfl : r = some row := hdec
          exact decodeEnv_knob hd
      rw [hsplit, List.filter_append, ih]
      by_cases hx : x = knob
      · have hall : (rowsOf (decodeEnv f env) [x]).filter (·.1 = knob) = rowsOf (decodeEnv f env) [x] := by
          rw [List.filter_eq_self]
          intro row hrow
          simp [hone row hrow, hx]
        rw [hall, List.filter_cons_of_pos (by simp [hx]), ← hsplit]
      · have hnil : (rowsOf (decodeEnv f env) [x]).filter (·.1 = knob) = [] := by
          rw [List.filter_eq_nil_iff]
          intro row hrow
          simp [hone row hrow, hx]
        rw [hnil, List.filter_cons_of_neg (by simp [hx]), List.nil_append]
  unfold lastFor
  rw [hfilter, hfilter]
  have hall : KnobName.all.filter (· = knob) = [knob] := by
    cases knob <;> decide
  rw [hall]
  simp

theorem nameDefaults_get? (map : SourceMap) (name : String) :
    (nameDefaults map).get? name = if (KnobName.fromStr name).isSome then some ((map.get? name).getD .default)
      else map.get? name := by
  have hfold : ∀ (ks : List KnobName) (m : SourceMap),
      (ks.foldl (fun map knob => map.orInsert knob.asStr .default) m).get? name =
        if ∃ knob ∈ ks, knob.asStr = name then some ((m.get? name).getD .default) else m.get? name := by
    intro ks
    induction ks with
    | nil => simp
    | cons k ks ih =>
      intro m
      rw [List.foldl_cons, ih, BTreeMap.get?_orInsert]
      by_cases hk : k.asStr = name
      · simp [hk]
      · have hk' : ¬ name = k.asStr := fun heq => hk heq.symm
        simp [hk, hk']
  rw [nameDefaults, hfold]
  have hiff : (∃ knob ∈ KnobName.all, knob.asStr = name) ↔ (KnobName.fromStr name).isSome := by
    rw [Option.isSome_iff_exists]
    constructor
    · rintro ⟨knob, -, h⟩
      exact ⟨knob, KnobName.fromStr_eq_some.2 h.symm⟩
    · rintro ⟨knob, h⟩
      exact ⟨knob, KnobName.mem_all knob, (KnobName.fromStr_eq_some.1 h).symm⟩
  simp only [hiff]

/-- A value under the hard cap. -/
def capped (knob : KnobName) (value : KnobValue F) : KnobValue F :=
  match knob, value with
  | .stalenessWindowMs, .u32 v => .u32 (if stalenessWindowHardCapMs < v then stalenessWindowHardCapMs else v)
  | _, _ => value

theorem snapshotKnob_hardCap (knobs : Knobs F) (knob : KnobName) :
    (hardCap knobs).snapshotKnob knob = capped knob (knobs.snapshotKnob knob) := by
  unfold hardCap
  by_cases hlt : stalenessWindowHardCapMs < knobs.stalenessWindowMs
  · rw [if_pos hlt]
    cases knob <;> first | rfl | simp [Knobs.snapshotKnob, capped, hlt]
  · rw [if_neg hlt]
    cases knob <;> first | rfl | simp [Knobs.snapshotKnob, capped, hlt]

/-- The three layers over the defaults. -/
theorem layers_winner {f : Floats F} {env : Env} {rows : List (String × TomlValue F)} {builder : List (String × KnobValue F)}
    {st₁ st₂ st₃ : Resolved F} (h₁ : stage f (decodeToml f) .file rows (Knobs.defaults f, .empty) = .ok st₁)
    (h₂ : stage f (decodeEnv f env) .env KnobName.all st₁ = .ok st₂) (h₃ : stage f decodeBuilder .builder builder st₂ = .ok st₃)
    (knob : KnobName) : st₃.1.snapshotKnob knob = (winner f env rows builder knob).1 ∧
      (nameDefaults st₃.2).get? knob.asStr = some (winner f env rows builder knob).2 := by
  have hfile := (stage_ok h₁).2
  have henv := (stage_ok h₂).2
  have hbuilder := (stage_ok h₃).2
  have hempty : (BTreeMap.empty : SourceMap).get? knob.asStr = none := rfl
  rw [nameDefaults_get?, KnobName.fromStr_asStr, Option.isSome_some, if_pos rfl, hbuilder.value, hbuilder.named, henv.value,
    henv.named, hfile.value, hfile.named, lastFor_env, hempty]
  unfold winner
  cases lastFor (rowsOf decodeBuilder builder) knob with
  | some value => simp
  | none =>
    cases lastFor (rowsOf (decodeEnv f env) [knob]) knob with
    | some value => simp
    | none => cases lastFor (rowsOf (decodeToml f) rows) knob <;> simp

/-- The rows of the config file, if one was named. -/
def tableOf (parse : String → Except (Option Nat) (List (String × TomlValue F))) (env : Env)
    (file : Option (Except String String)) : Except ConfigError (List (String × TomlValue F)) :=
  match file with
  | none => .ok []
  | some file => fileRows parse env file

/-- No winner that may not be zero is. -/
def NoZero (f : Floats F) (env : Env) (rows : List (String × TomlValue F)) (builder : List (String × KnobValue F)) : Prop :=
  ∀ knob ∈ nonzeroKnobs, isZero (winner f env rows builder knob).1 = false

theorem rejectZero_ok {knobs : Knobs F} :
    rejectZero knobs = .ok () ↔ ∀ knob ∈ nonzeroKnobs, isZero (knobs.snapshotKnob knob) = false := by
  unfold rejectZero
  cases hf : nonzeroKnobs.find? fun knob => isZero (knobs.snapshotKnob knob) with
  | none =>
    have hnone := List.find?_eq_none.1 hf
    simpa using hnone
  | some knob =>
    have hzero : isZero (knobs.snapshotKnob knob) = true := by simpa using List.find?_some hf
    have hmem := List.mem_of_find?_eq_some hf
    constructor
    · rintro ⟨⟩
    · intro hall
      rw [hall knob hmem] at hzero
      cases hzero

/-- `resolve` step by step. -/
theorem resolve_eq (f : Floats F) (parse : String → Except (Option Nat) (List (String × TomlValue F))) (env : Env)
    (file : Option (Except String String)) (builder : List (String × KnobValue F)) : resolve f parse env file builder =
      (tableOf parse env file).bind fun rows =>
        (stage f (decodeToml f) .file rows (Knobs.defaults f, .empty)).bind fun st₁ =>
          (stage f (decodeEnv f env) .env KnobName.all st₁).bind fun st₂ =>
            (stage f decodeBuilder .builder builder st₂).bind fun st₃ =>
              (rejectZero (hardCap st₃.1)).bind fun _ => .ok (hardCap st₃.1, nameDefaults st₃.2) := by
  cases file <;> rfl

/-- A cap does not make a zero, and no capped knob is one that may not be. -/
theorem isZero_capped {knob : KnobName} (hknob : knob ∈ nonzeroKnobs) (value : KnobValue F) :
    isZero (capped knob value) = isZero value := by
  have hne : knob ≠ .stalenessWindowMs := by
    rintro rfl
    revert hknob
    decide
  cases knob <;> first | rfl | exact absurd rfl hne

theorem bind_eq_ok {α β ε : Type} {x : Except ε α} {g : α → Except ε β} {b : β} :
    x.bind g = .ok b ↔ ∃ a, x = .ok a ∧ g a = .ok b := by
  cases x with
  | error e => simp [Except.bind]
  | ok a => simp [Except.bind]

/-- What a resolution that goes through went through. -/
theorem resolve_eq_ok {f : Floats F} {parse : String → Except (Option Nat) (List (String × TomlValue F))} {env : Env}
    {file : Option (Except String String)} {builder : List (String × KnobValue F)} {r : Resolved F} :
    resolve f parse env file builder = .ok r ↔ ∃ rows st₁ st₂ st₃, tableOf parse env file = .ok rows ∧
      stage f (decodeToml f) .file rows (Knobs.defaults f, .empty) = .ok st₁ ∧
      stage f (decodeEnv f env) .env KnobName.all st₁ = .ok st₂ ∧ stage f decodeBuilder .builder builder st₂ = .ok st₃ ∧
      rejectZero (hardCap st₃.1) = .ok () ∧ r = (hardCap st₃.1, nameDefaults st₃.2) := by
  rw [resolve_eq]
  simp only [bind_eq_ok]
  constructor
  · rintro ⟨rows, ht, st₁, h₁, st₂, h₂, st₃, h₃, ⟨⟩, hz, hr⟩
    exact ⟨rows, st₁, st₂, st₃, ht, h₁, h₂, h₃, hz, (Except.ok.inj hr).symm⟩
  · rintro ⟨rows, st₁, st₂, st₃, ht, h₁, h₂, h₃, hz, rfl⟩
    exact ⟨rows, ht, st₁, h₁, st₂, h₂, st₃, h₃, (), hz, rfl⟩

/-- Each knob has the value of its winner, the hard cap apart, and the source map names the winner's source and nothing
but knobs. -/
theorem resolve_winner {f : Floats F} {parse : String → Except (Option Nat) (List (String × TomlValue F))} {env : Env}
    {file : Option (Except String String)} {builder : List (String × KnobValue F)} {knobs : Knobs F} {map : SourceMap}
    (h : resolve f parse env file builder = .ok (knobs, map)) :
    ∃ rows, tableOf parse env file = .ok rows ∧
      (∀ knob, knobs.snapshotKnob knob = capped knob (winner f env rows builder knob).1) ∧
      ∀ name source, map.get? name = some source ↔
        ∃ knob : KnobName, name = knob.asStr ∧ source = (winner f env rows builder knob).2 := by
  obtain ⟨rows, st₁, st₂, st₃, ht, h₁, h₂, h₃, -, hr⟩ := resolve_eq_ok.1 h
  rw [Prod.mk.injEq] at hr
  obtain ⟨hknobs, hmap⟩ := hr
  rw [hknobs, hmap]
  refine ⟨rows, ht, fun knob => ?_, fun name source => ?_⟩
  · rw [snapshotKnob_hardCap, (layers_winner h₁ h₂ h₃ knob).1]
  · constructor
    · intro hget
      have hkey : ∃ knob : KnobName, name = knob.asStr := by
        by_contra hno
        have hnone : KnobName.fromStr name = none := by
          cases hk : KnobName.fromStr name with
          | none => rfl
          | some knob => exact absurd ⟨knob, KnobName.fromStr_eq_some.1 hk⟩ hno
        rw [nameDefaults_get?, hnone] at hget
        have hsome : (st₃.2.get? name).isSome := by simpa using Option.isSome_iff_exists.2 ⟨source, hget⟩
        rcases (stage_ok h₃).2.keys name hsome with hsome | hk
        · rcases (stage_ok h₂).2.keys name hsome with hsome | hk
          · rcases (stage_ok h₁).2.keys name hsome with hsome | hk
            · cases hsome
            · exact hno hk
          · exact hno hk
        · exact hno hk
      obtain ⟨knob, rfl⟩ := hkey
      rw [(layers_winner h₁ h₂ h₃ knob).2] at hget
      exact ⟨knob, rfl, (Option.some.inj hget).symm⟩
    · rintro ⟨knob, rfl, rfl⟩
      exact (layers_winner h₁ h₂ h₃ knob).2

/-- **Resolving the configuration.** It goes through exactly if the file is read, interpolated and parsed,
every row of it and every variable and every override is of a known knob and accepted by it, and no
capacity or backoff comes to zero; and then each knob has the value of its winner, the hard cap apart,
and the source map names the winner's source, for the knobs and for nothing else. -/
theorem resolve_spec (f : Floats F) (parse : String → Except (Option Nat) (List (String × TomlValue F))) (env : Env)
    (file : Option (Except String String)) (builder : List (String × KnobValue F)) :
    ((∃ r, resolve f parse env file builder = .ok r) ↔
      ∃ rows, tableOf parse env file = .ok rows ∧ (∀ row ∈ rows, RowOk f (decodeToml f) row) ∧
        (∀ knob, RowOk f (decodeEnv f env) knob) ∧ (∀ row ∈ builder, RowOk f decodeBuilder row) ∧
        NoZero f env rows builder) ∧
    ∀ knobs map, resolve f parse env file builder = .ok (knobs, map) → ∃ rows, tableOf parse env file = .ok rows ∧
      (∀ knob, knobs.snapshotKnob knob = capped knob (winner f env rows builder knob).1) ∧
      ∀ name source, map.get? name = some source ↔
        ∃ knob : KnobName, name = knob.asStr ∧ source = (winner f env rows builder knob).2 := by
  have hzero : ∀ {rows : List (String × TomlValue F)} {st₁ st₂ st₃ : Resolved F},
      stage f (decodeToml f) .file rows (Knobs.defaults f, .empty) = .ok st₁ →
      stage f (decodeEnv f env) .env KnobName.all st₁ = .ok st₂ → stage f decodeBuilder .builder builder st₂ = .ok st₃ →
      (rejectZero (hardCap st₃.1) = .ok () ↔ NoZero f env rows builder) := by
    intro rows st₁ st₂ st₃ h₁ h₂ h₃
    rw [rejectZero_ok]
    refine forall₂_congr fun knob hknob => ?_
    rw [snapshotKnob_hardCap, (layers_winner h₁ h₂ h₃ knob).1, isZero_capped hknob]
  refine ⟨⟨?_, ?_⟩, fun knobs map h => resolve_winner h⟩
  · rintro ⟨r, h⟩
    obtain ⟨rows, st₁, st₂, st₃, ht, h₁, h₂, h₃, hz, -⟩ := resolve_eq_ok.1 h
    exact ⟨rows, ht, (stage_ok h₁).1, fun knob => (stage_ok h₂).1 knob (KnobName.mem_all knob), (stage_ok h₃).1,
      (hzero h₁ h₂ h₃).1 hz⟩
  · rintro ⟨rows, ht, hrows, henv, hbuilder, hno⟩
    obtain ⟨st₁, h₁⟩ := stage_of_rowOk .file hrows (Knobs.defaults f, .empty)
    obtain ⟨st₂, h₂⟩ := stage_of_rowOk .env (fun knob (_ : knob ∈ KnobName.all) => henv knob) st₁
    obtain ⟨st₃, h₃⟩ := stage_of_rowOk .builder hbuilder st₂
    exact ⟨_, resolve_eq_ok.2 ⟨rows, st₁, st₂, st₃, ht, h₁, h₂, h₃, (hzero h₁ h₂ h₃).2 hno, rfl⟩⟩

/-! ## Endpoints -/

/-- What `.build()` refuses a configuration for. -/
inductive BuildError where
  | config (e : ConfigError)
  | insecureEndpointScheme (knob scheme : String)
  deriving DecidableEq

/-- `require_scheme` (config_resolver.rs:250): the first bytes, in any case. -/
def requireScheme (knob url scheme : String) : Except BuildError Unit :=
  if eqIgnoreAsciiCase (url.toList.take scheme.toList.length) scheme.toList then .ok ()
  else .error (.insecureEndpointScheme knob scheme)

/-- `validate_endpoint_schemes` (config_resolver.rs:245). -/
def validateEndpointSchemes (knobs : Knobs F) (checkRest : Bool) : Except BuildError Unit := do
  if checkRest then requireScheme KnobName.restBaseUrl.asStr knobs.restBaseUrl "https://"
  requireScheme KnobName.wsPublicUrl.asStr knobs.wsPublicUrl "wss://"
  requireScheme KnobName.wsAuthUrl.asStr knobs.wsAuthUrl "wss://"

end KrakenSdk.Build.ConfigResolver
