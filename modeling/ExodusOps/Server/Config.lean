/-
**The configuration: `ServerConfig::fromEnv`.**

Each field is read from an environment variable by `std::stoul`, checked against its range and
narrowed to its type, in one helper for five of them and in another for the metrics port.
`Setting.meaning` states what the header documents: a numeral within the range is the value of the
field, and everything else gives the default.

`fromEnv_meaning_iff`: **a field is what its variable says** unless the text is a negative numeral,
or begins with white space, and its value modulo 2⁶⁴ happens to lie within the range
(`Setting.Misread`). `negative_port`: a negative number that makes a port. In any case every field
is within its range (`fromEnv_in_range`), which is what the heartbeat monitor relies on.
-/

import ExodusOps.Lib.Numeral
import ExodusOps.Server.World

namespace ExodusOps

/-- `std::getenv`. -/
abbrev Environment := String → Option Bytes

/-- An unsigned integer type that is no wider than `unsigned long`. -/
class Unsigned (T : Type) where
  /-- `static_cast<unsigned long>` -/
  widen : T → UInt64
  /-- `static_cast<T>` -/
  narrow : UInt64 → T
  widen_narrow : ∀ {value : UInt64} {bound : T}, value ≤ widen bound → widen (narrow value) = value

open Unsigned (widen narrow)

instance : Unsigned UInt16 where
  widen := UInt16.toUInt64
  narrow := UInt64.toUInt16
  widen_narrow := by
    intro value bound inside
    have small : value.toNat < 2 ^ 16 :=
      (UInt64.le_iff_toNat_le.mp inside).trans_lt (UInt16.toNat_lt bound)
    apply UInt64.toNat_inj.mp
    rw [UInt16.toNat_toUInt64, UInt64.toNat_toUInt16, Nat.mod_eq_of_lt small]

instance : Unsigned UInt32 where
  widen := UInt32.toUInt64
  narrow := UInt64.toUInt32
  widen_narrow := by
    intro value bound inside
    have small : value.toNat < 2 ^ 32 :=
      (UInt64.le_iff_toNat_le.mp inside).trans_lt (UInt32.toNat_lt bound)
    apply UInt64.toNat_inj.mp
    rw [UInt32.toNat_toUInt64, UInt64.toNat_toUInt32, Nat.mod_eq_of_lt small]

namespace ServerConfig

/-! ### The helpers -/

/-- The variable as an `unsigned long`: set, not empty, and a number to its last character. -/
def readUnsignedLong (env : Environment) (name : String) : Option UInt64 :=
  match env name with
  | none => none
  | some raw =>
      if raw = [] then none
      else
        match stoul raw with
        | none => none
        | some (value, pos) => if pos ≠ raw.length then none else some value

structure ParseRange (T : Type) where
  min : T
  max : T
  defaultVal : T

/-- What a helper returns, and what it writes to `std::cerr`. -/
structure Parsed (T : Type) where
  value : T
  warning : Option Bytes

section Helpers

variable {T : Type} [Unsigned T]

def decimalText (value : T) : String := toString (widen value).toNat

def parseEnv (env : Environment) (name : String) (range : ParseRange T) : Parsed T :=
  match readUnsignedLong env name with
  | none =>
      ⟨range.defaultVal, (env name).map fun _ =>
        text ("[WARN] serverConfig: " ++ name ++ " is not a valid number — using default " ++
          decimalText range.defaultVal ++ "\n")⟩
  | some raw =>
      if raw < widen range.min ∨ raw > widen range.max then
        ⟨range.defaultVal, some (text ("[WARN] serverConfig: " ++ name ++ "=" ++
          toString raw.toNat ++ " out of range [" ++ decimalText range.min ++ ", " ++
          decimalText range.max ++ "] — using default " ++ decimalText range.defaultVal ++ "\n"))⟩
      else ⟨narrow raw, none⟩

end Helpers

def defaultPort : UInt16 := 9026
def defaultMetricsPort : UInt16 := 9464
def defaultIdleTimeout : UInt32 := 30
def defaultThreadPoolSize : UInt32 := 16
def defaultMaxClients : UInt32 := 10000
def defaultHeartbeatInterval : UInt32 := 5

/-- The helper of the metrics port, which has no lower bound. -/
def parseMetricsPort (env : Environment) : Parsed UInt16 :=
  match readUnsignedLong env "EOP_METRICS_PORT" with
  | none =>
      ⟨defaultMetricsPort, (env "EOP_METRICS_PORT").map fun _ =>
        text ("[WARN] serverConfig: EOP_METRICS_PORT is not a valid number — using default " ++
          decimalText defaultMetricsPort ++ "\n")⟩
  | some raw =>
      if raw > 65535 then
        ⟨defaultMetricsPort, some (text ("[WARN] serverConfig: EOP_METRICS_PORT=" ++
          toString raw.toNat ++ " out of range — using default " ++
          decimalText defaultMetricsPort ++ "\n"))⟩
      else ⟨raw.toUInt16, none⟩

/-- The fields of the source's `ServerConfig`. -/
structure Fields where
  port : UInt16
  metricsPort : UInt16
  idleTimeoutSecs : UInt32
  threadPoolSize : UInt32
  maxClients : UInt32
  heartbeatIntervalSecs : UInt32

/-- `ServerConfig::fromEnv`: the fields, and the warnings in their order. -/
def fromEnv (env : Environment) : Fields × List Bytes :=
  let port := parseEnv env "EOP_PORT" ⟨1, 65535, defaultPort⟩
  let metricsPort := parseMetricsPort env
  let idleTimeoutSecs := parseEnv env "EOP_IDLE_TIMEOUT" ⟨1, 3600, defaultIdleTimeout⟩
  let threadPoolSize := parseEnv env "EOP_THREAD_POOL_SIZE" ⟨1, 256, defaultThreadPoolSize⟩
  let maxClients := parseEnv env "EOP_MAX_CLIENTS" ⟨1, 100000, defaultMaxClients⟩
  let heartbeatIntervalSecs :=
    parseEnv env "EOP_HEARTBEAT_INTERVAL" ⟨1, 300, defaultHeartbeatInterval⟩
  (⟨port.value, metricsPort.value, idleTimeoutSecs.value, threadPoolSize.value, maxClients.value,
      heartbeatIntervalSecs.value⟩,
    [port.warning, metricsPort.warning, idleTimeoutSecs.warning, threadPoolSize.warning,
      maxClients.warning, heartbeatIntervalSecs.warning].reduceOption)

/-! ### What the header documents -/

inductive Setting where
  | port | metricsPort | idleTimeout | threadPoolSize | maxClients | heartbeatInterval
  deriving DecidableEq, Repr

namespace Setting

def name : Setting → String
  | .port => "EOP_PORT"
  | .metricsPort => "EOP_METRICS_PORT"
  | .idleTimeout => "EOP_IDLE_TIMEOUT"
  | .threadPoolSize => "EOP_THREAD_POOL_SIZE"
  | .maxClients => "EOP_MAX_CLIENTS"
  | .heartbeatInterval => "EOP_HEARTBEAT_INTERVAL"

/-- The documented range and default. -/
def range : Setting → ParseRange Nat
  | .port => ⟨1, 65535, 9026⟩
  | .metricsPort => ⟨0, 65535, 9464⟩
  | .idleTimeout => ⟨1, 3600, 30⟩
  | .threadPoolSize => ⟨1, 256, 16⟩
  | .maxClients => ⟨1, 100000, 10000⟩
  | .heartbeatInterval => ⟨1, 300, 5⟩

/-- The field the variable sets. -/
def field (fields : Fields) : Setting → Nat
  | .port => fields.port.toNat
  | .metricsPort => fields.metricsPort.toNat
  | .idleTimeout => fields.idleTimeoutSecs.toNat
  | .threadPoolSize => fields.threadPoolSize.toNat
  | .maxClients => fields.maxClients.toNat
  | .heartbeatInterval => fields.heartbeatIntervalSecs.toNat

end Setting

/-- A number within the range, or else the default. -/
def ParseRange.clamp (range : ParseRange Nat) (number : Option Int) : Nat :=
  match number with
  | none => range.defaultVal
  | some number =>
      if (range.min : Int) ≤ number ∧ number ≤ range.max then number.toNat else range.defaultVal

/-- **What a variable says.** -/
def Setting.meaning (env : Environment) (setting : Setting) : Nat :=
  setting.range.clamp ((env setting.name).bind numeral)

/-! ### The fields -/

/-- What `readUnsignedLong` finds: white space and a numeral, modulo 2⁶⁴. -/
theorem readUnsignedLong_eq_some_iff {env : Environment} {name : String} {value : UInt64} :
    readUnsignedLong env name = some value ↔
      ∃ raw number, env name = some raw ∧ numeral (raw.dropWhile isSpace) = some number ∧
        number.natAbs < 2 ^ 64 ∧ (value.toNat : Int) = number % 2 ^ 64 := by
  unfold readUnsignedLong
  cases env name with
  | none => simp
  | some raw =>
      simp only [Option.some.injEq, exists_and_left, exists_eq_left']
      rw [← stoul_whole_iff]
      by_cases empty : raw = []
      · subst empty
        simp [stoul, splitSign]
      · rw [if_neg empty]
        cases stoul raw with
        | none => simp
        | some read =>
            obtain ⟨found, pos⟩ := read
            by_cases whole : pos = raw.length
            · simp [whole]
            · simp [whole]

section Helpers

variable {T : Type} [Unsigned T]

/-- **`parseEnv`**: a number within the range, or else the default. -/
theorem parseEnv_value (env : Environment) (name : String) (range : ParseRange T) :
    (widen (parseEnv env name range).value).toNat =
      ParseRange.clamp ⟨(widen range.min).toNat, (widen range.max).toNat,
        (widen range.defaultVal).toNat⟩
        ((readUnsignedLong env name).map fun raw => (raw.toNat : Int)) := by
  unfold parseEnv
  cases readUnsignedLong env name with
  | none => rfl
  | some raw =>
      simp only [Option.map_some, ParseRange.clamp, Int.ofNat_le, Int.toNat_natCast]
      by_cases outside : raw < widen range.min ∨ raw > widen range.max
      · rw [if_pos outside, if_neg]
        simp only [gt_iff_lt, UInt64.lt_iff_toNat_lt] at outside
        omega
      · rw [if_neg outside, if_pos]
        · rw [not_or, gt_iff_lt, UInt64.not_lt, UInt64.not_lt] at outside
          rw [Unsigned.widen_narrow outside.2]
        · simp only [gt_iff_lt, UInt64.lt_iff_toNat_lt] at outside
          omega

end Helpers

/-- **`parseMetricsPort`** takes what `parseEnv` would with a lower bound of zero. -/
theorem parseMetricsPort_value (env : Environment) :
    (parseMetricsPort env).value =
      (parseEnv env "EOP_METRICS_PORT" ⟨0, 65535, defaultMetricsPort⟩).value := by
  unfold parseMetricsPort parseEnv
  cases readUnsignedLong env "EOP_METRICS_PORT" with
  | none => rfl
  | some raw =>
      have none : ¬ raw < widen (0 : UInt16) := UInt64.not_lt_zero
      simp only [none, false_or]
      show _ = (if raw > 65535 then _ else _ : Parsed UInt16).value
      split <;> rfl

/-- **Every field** is its number within the documented range, or else the documented default. -/
theorem field_fromEnv (env : Environment) (setting : Setting) :
    setting.field (fromEnv env).1 = setting.range.clamp
      ((readUnsignedLong env setting.name).map fun raw => (raw.toNat : Int)) := by
  cases setting with
  | metricsPort =>
      have value := parseEnv_value env "EOP_METRICS_PORT" ⟨0, 65535, defaultMetricsPort⟩
      rw [← parseMetricsPort_value] at value
      exact value
  | port => exact parseEnv_value env "EOP_PORT" ⟨1, 65535, defaultPort⟩
  | idleTimeout => exact parseEnv_value env "EOP_IDLE_TIMEOUT" ⟨1, 3600, defaultIdleTimeout⟩
  | threadPoolSize =>
      exact parseEnv_value env "EOP_THREAD_POOL_SIZE" ⟨1, 256, defaultThreadPoolSize⟩
  | maxClients => exact parseEnv_value env "EOP_MAX_CLIENTS" ⟨1, 100000, defaultMaxClients⟩
  | heartbeatInterval =>
      exact parseEnv_value env "EOP_HEARTBEAT_INTERVAL" ⟨1, 300, defaultHeartbeatInterval⟩

/-! ### Fields and meanings -/

/-- **The text is read as something else**: it is a negative numeral, or a numeral behind white
space, and what it comes to modulo 2⁶⁴ lies within the range. -/
def Setting.Misread (env : Environment) (setting : Setting) : Prop :=
  ∃ raw number, env setting.name = some raw ∧ numeral (raw.dropWhile isSpace) = some number ∧
    number.natAbs < 2 ^ 64 ∧ (number < 0 ∨ raw.dropWhile isSpace ≠ raw) ∧
    (setting.range.min : Int) ≤ number % 2 ^ 64 ∧ number % 2 ^ 64 ≤ setting.range.max ∧
    number % 2 ^ 64 ≠ setting.range.defaultVal

theorem Setting.max_lt (setting : Setting) : setting.range.max < 2 ^ 64 := by
  cases setting <;> decide

/-- What is read of a text, as a number. -/
def wrapped (raw : Bytes) : Option Int :=
  (numeral (raw.dropWhile isSpace)).bind fun number =>
    if number.natAbs < 2 ^ 64 then some (number % 2 ^ 64) else none

theorem readUnsignedLong_eq_wrapped (env : Environment) (name : String) :
    (readUnsignedLong env name).map (fun value => (value.toNat : Int)) =
      (env name).bind wrapped := by
  ext number
  simp only [Option.map_eq_some_iff, readUnsignedLong_eq_some_iff, Option.bind_eq_some_iff,
    wrapped, Option.ite_none_right_eq_some, Option.some.injEq]
  constructor
  · rintro ⟨value, ⟨raw, denoted, set, denotes, fits, same⟩, rfl⟩
    exact ⟨raw, set, denoted, denotes, fits, same.symm⟩
  · rintro ⟨raw, set, denoted, denotes, fits, rfl⟩
    have size : (denoted % 2 ^ 64).toNat < 2 ^ 64 := by omega
    refine ⟨UInt64.ofNat (denoted % 2 ^ 64).toNat, ⟨raw, denoted, set, denotes, fits, ?_⟩, ?_⟩
    all_goals
      rw [UInt64.toNat_ofNat_of_lt' size]
      omega

/-- A text that is odd in one of the two ways says nothing within the range. -/
theorem clamp_odd (range : ParseRange Nat) {raw : Bytes} {number : Int}
    (denotes : numeral (raw.dropWhile isSpace) = some number)
    (odd : number < 0 ∨ raw.dropWhile isSpace ≠ raw) :
    range.clamp (numeral raw) = range.defaultVal := by
  cases said : numeral raw with
  | none => rfl
  | some other =>
      have unspaced := dropWhile_isSpace_of_numeral said
      rw [unspaced, said, Option.some.injEq] at denotes
      have negative : other < 0 := denotes ▸ odd.resolve_right (not_not_intro unspaced)
      rw [ParseRange.clamp, if_neg (by omega)]

theorem clamp_eq_default_iff (range : ParseRange Nat) (number : Int) :
    range.clamp (some number) = range.defaultVal ↔
      ¬ ((range.min : Int) ≤ number ∧ number ≤ range.max ∧ number ≠ range.defaultVal) := by
  rw [ParseRange.clamp]
  split_ifs <;> omega

/-- **A field is what its variable says** exactly when the text is not read as something else. -/
theorem fromEnv_meaning_iff (env : Environment) (setting : Setting) :
    setting.field (fromEnv env).1 = setting.meaning env ↔ ¬ setting.Misread env := by
  have bound := setting.max_lt
  rw [field_fromEnv, readUnsignedLong_eq_wrapped, Setting.meaning, Setting.Misread]
  cases env setting.name with
  | none => simp
  | some raw =>
      simp only [Option.bind_some, Option.some.injEq, exists_and_left, exists_eq_left']
      cases denotes : numeral (raw.dropWhile isSpace) with
      | none =>
          have unsaid : numeral raw = none := by
            by_contra said
            obtain ⟨number, said⟩ := Option.ne_none_iff_exists'.mp said
            rw [dropWhile_isSpace_of_numeral said, said] at denotes
            cases denotes
          simp [wrapped, denotes, unsaid]
      | some number =>
          simp only [Option.some.injEq, exists_eq_left', wrapped, denotes, Option.bind_some]
          by_cases fits : number.natAbs < 2 ^ 64
          · rw [if_pos fits]
            by_cases odd : number < 0 ∨ raw.dropWhile isSpace ≠ raw
            · rw [clamp_odd _ denotes odd, clamp_eq_default_iff]
              simp only [fits, odd, true_and]
            · rw [not_or, not_not] at odd
              rw [odd.2] at denotes
              rw [denotes, Int.emod_eq_of_lt (by omega) (by omega)]
              exact iff_of_true rfl fun misread => misread.2.1.elim odd.1 fun spaced =>
                spaced odd.2
          · rw [if_neg fits]
            refine iff_of_true ?_ fun misread => fits misread.1
            by_cases odd : number < 0 ∨ raw.dropWhile isSpace ≠ raw
            · rw [clamp_odd _ denotes odd, ParseRange.clamp]
            · rw [not_or, not_not] at odd
              rw [odd.2] at denotes
              rw [denotes, ParseRange.clamp, ParseRange.clamp, if_neg (by omega)]

/-- An environment in which one variable is set. -/
def only (name : String) (value : Bytes) : Environment :=
  fun other => if other = name then some value else none

/-- **A negative number that makes a port**: 2⁶⁴ − 1 behind a minus sign is port 1. -/
theorem negative_port :
    numeral (text "-18446744073709551615") = some (-18446744073709551615) ∧
      (fromEnv (only "EOP_PORT" (text "-18446744073709551615"))).1.port = 1 ∧
      Setting.port.meaning (only "EOP_PORT" (text "-18446744073709551615")) = 9026 := by
  decide +kernel

/-! ### Every environment gives a valid configuration -/

theorem Setting.default_in_range (setting : Setting) :
    setting.range.min ≤ setting.range.defaultVal ∧
      setting.range.defaultVal ≤ setting.range.max := by
  cases setting <;> decide

/-- **Whatever the environment, every field is within its range.** -/
theorem fromEnv_in_range (env : Environment) (setting : Setting) :
    setting.range.min ≤ setting.field (fromEnv env).1 ∧
      setting.field (fromEnv env).1 ≤ setting.range.max := by
  have valid := setting.default_in_range
  rw [field_fromEnv]
  cases (readUnsignedLong env setting.name).map fun raw => (raw.toNat : Int) with
  | none => exact valid
  | some number =>
      rw [ParseRange.clamp]
      split_ifs
      · omega
      · exact valid

end ServerConfig

end ExodusOps
