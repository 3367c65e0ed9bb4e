import JobProgress.Config.Load
import JobProgress.Proofs.DistinctKeys
import Mathlib.Data.List.Nodup

/-! Which documents hold settings, and which settings they hold. Each of the three settings has a
key and values that stand for it. A document is accepted when every entry gives one of these keys
such a value, and a setting is what the entry with its key gives it, or else its default. -/

namespace JobProgress

open Toml (Entry Located Value)

def SharePolicy.name : SharePolicy → String
  | .clamp => "clamp"
  | .reject => "reject"

def IsNumber (limit : Nat) (value : Value) (number : Nat) : Prop :=
  value = .integer (some number) ∧ number ≤ limit

def HoldsNothing (value : Value) : Prop :=
  (∃ form, value = .array form []) ∨ ∃ form, value = .table form []

/-- A policy is given by its name, or by its name as the only key of a table. -/
inductive NamesPolicy : Value → SharePolicy → Prop
  | name (policy) : NamesPolicy (.string policy.name) policy
  | key {form key content} (policy : SharePolicy) :
      key.value = policy.name → HoldsNothing content.value →
      NamesPolicy (.table form [(key, content)]) policy

structure Setting (β : Type) where
  key : String
  get : Config → β
  put : β → Config → Config
  Means : Value → β → Prop

namespace Setting

variable {β γ : Type} {setting : Setting β} {other : Setting γ} {start config next : Config}
  {entry : Entry} {entries first second : List Entry}

def cancelPollInterval : Setting Duration where
  key := "cancel-poll-interval-ms"
  get := Config.cancelPollInterval
  put interval config := { config with cancelPollInterval := interval }
  Means value interval :=
    ∃ milliseconds, IsNumber (1 <<< 64 - 1) value milliseconds ∧
      interval = .ofMilliseconds milliseconds

def overrunWork : Setting UInt32 where
  key := "overrun-work"
  get := Config.overrunWork
  put work config := { config with overrunWork := work }
  Means value work := IsNumber (1 <<< 32 - 1) value work.toNat

def sharePolicy : Setting SharePolicy where
  key := "share-policy"
  get := Config.sharePolicy
  put policy config := { config with sharePolicy := policy }
  Means := NamesPolicy

def Admits (setting : Setting β) (entry : Entry) : Prop :=
  entry.1.value = setting.key ∧ ∃ value, setting.Means entry.2.value value

/-- The setting is what the entries give it, and stays where they give it nothing. -/
structure Follows (setting : Setting β) (start : Config) (entries : List Entry)
    (config : Config) : Prop where
  given : ∀ entry ∈ entries, entry.1.value = setting.key →
    setting.Means entry.2.value (setting.get config)
  absent : (∀ entry ∈ entries, entry.1.value ≠ setting.key) →
    setting.get config = setting.get start

theorem Follows.nil (setting : Setting β) (config : Config) : setting.Follows config [] config :=
  ⟨nofun, fun _ => rfl⟩

theorem Follows.cons (one : setting.Follows start [entry] next)
    (rest : setting.Follows next entries config)
    (apart : ∀ other ∈ entries, other.1.value ≠ entry.1.value) :
    setting.Follows start (entry :: entries) config := by
  constructor
  · intro member listed named
    rcases List.mem_cons.mp listed with rfl | later
    · rw [rest.absent fun other listed => named ▸ apart other listed]
      exact one.given member List.mem_cons_self named
    · exact rest.given member later named
  · intro unnamed
    rcases List.forall_mem_cons.mp unnamed with ⟨first, others⟩
    rw [rest.absent others, one.absent (List.forall_mem_singleton.mpr first)]

theorem Follows.of_perm (follows : setting.Follows start first config)
    (perm : first.Perm second) : setting.Follows start second config where
  given entry listed := follows.given entry (perm.mem_iff.mpr listed)
  absent unnamed := follows.absent fun entry listed => unnamed entry (perm.mem_iff.mp listed)

def Sets (setting : Setting β) (entry : Entry) (config next : Config) : Prop :=
  entry.1.value = setting.key ∧
    ∃ value, setting.Means entry.2.value value ∧ next = setting.put value config

theorem exists_sets_iff (config : Config) :
    (∃ next, setting.Sets entry config next) ↔ setting.Admits entry := by
  constructor
  · rintro ⟨_, named, value, means, _⟩
    exact ⟨named, value, means⟩
  · rintro ⟨named, value, means⟩
    exact ⟨_, named, value, means, rfl⟩

theorem Sets.follows (sets : setting.Sets entry config next)
    (kept : ∀ value config, setting.get (setting.put value config) = value) :
    setting.Follows config [entry] next := by
  rcases sets with ⟨named, value, means, rfl⟩
  constructor
  · rintro _ (_ | _) _
    · rw [kept]
      exact means
    · contradiction
  · intro unnamed
    exact absurd named (unnamed entry List.mem_cons_self)

theorem Sets.follows_other (sets : other.Sets entry config next)
    (apart : other.key ≠ setting.key)
    (untouched : ∀ value config, setting.get (other.put value config) = setting.get config) :
    setting.Follows config [entry] next := by
  rcases sets with ⟨named, value, _, rfl⟩
  constructor
  · rintro _ (_ | _) own
    · exact absurd (named.symm.trans own) apart
    · contradiction
  · exact fun _ => untouched value config

end Setting

namespace Config

open Setting

variable {entry : Entry} {entries : List Entry} {start config next : Config}

def Accepts (entry : Entry) : Prop :=
  Setting.cancelPollInterval.Admits entry ∨ Setting.overrunWork.Admits entry ∨
    Setting.sharePolicy.Admits entry

structure Takes (start : Config) (entries : List Entry) (config : Config) : Prop where
  cancelPollInterval : Setting.cancelPollInterval.Follows start entries config
  overrunWork : Setting.overrunWork.Follows start entries config
  sharePolicy : Setting.sharePolicy.Follows start entries config

/-- The settings of entries are read when each entry is accepted, and are then what the entries
give, with the defaults for the rest. -/
def Reads {ε : Type} (entries : List Entry) (result : Except ε Config) : Prop :=
  ((∃ config, result = .ok config) ↔ ∀ entry ∈ entries, Accepts entry) ∧
    ∀ config, result = .ok config → Takes Config.default entries config

/-! ## Values -/

theorem number?_eq_some_iff {size : NumberSize} {value : Value} {number : Nat} :
    number? size value = some number ↔ IsNumber size.limit value number := by
  unfold number?
  split
  · next written =>
      rw [Option.ite_none_right_eq_some]
      simp only [IsNumber, Value.integer.injEq, Option.some_inj, Int.ofNat_eq_natCast]
      omega
  · next other =>
      refine ⟨nofun, fun isNumber => ?_⟩
      exact absurd isNumber.1 (other number)

theorem decodeNumber_eq_ok_iff {size : NumberSize} {value : Located Value} {number : Nat} :
    decodeNumber size value = .ok number ↔ IsNumber size.limit value.value number := by
  rw [← number?_eq_some_iff, decodeNumber]
  cases number? size value.value <;> simp

theorem policy?_eq_some_iff {text : String} {policy : SharePolicy} :
    policy? text = some policy ↔ text = policy.name := by
  constructor
  · intro named
    unfold policy? at named
    split at named <;> cases named <;> rfl
  · rintro rfl
    cases policy <;> rfl

theorem isEmpty_iff {value : Value} : isEmpty value = true ↔ HoldsNothing value := by
  unfold isEmpty
  split <;> simp_all [HoldsNothing]

theorem decodePolicyName_eq_ok_iff {name : Located String} {policy : SharePolicy} :
    decodePolicyName name = .ok policy ↔ name.value = policy.name := by
  rw [← policy?_eq_some_iff, decodePolicyName]
  cases policy? name.value <;> simp

theorem bind_eq_ok_iff {ε β γ : Type} {first : Except ε β} {rest : β → Except ε γ} {result : γ} :
    first >>= rest = .ok result ↔ ∃ value, first = .ok value ∧ rest value = .ok result := by
  cases first <;> simp [bind, Except.bind]

theorem toOption_eq_some_iff {ε β : Type} {result : Except ε β} {value : β} :
    result.toOption = some value ↔ result = .ok value := by
  cases result <;> simp [Except.toOption]

theorem decodePolicy_eq_ok_iff {value : Located Value} {policy : SharePolicy} :
    decodePolicy value = .ok policy ↔ NamesPolicy value.value policy := by
  rcases value with ⟨span, value⟩
  cases value with
  | string name =>
      change decodePolicyName ⟨span, name⟩ = .ok policy ↔ _
      rw [decodePolicyName_eq_ok_iff]
      constructor
      · rintro rfl
        exact .name policy
      · rintro ⟨⟩
        rfl
  | table form entries =>
      rcases entries with _ | ⟨⟨key, content⟩, _ | _⟩
      · exact ⟨nofun, nofun⟩
      · simp only [decodePolicy, bind_eq_ok_iff, decodePolicyName_eq_ok_iff]
        constructor
        · rintro ⟨other, named, taken⟩
          split at taken
          · next empty =>
              cases taken
              exact .key policy named (isEmpty_iff.mp empty)
          · cases taken
        · rintro (_ | ⟨_, named, empty⟩)
          exact ⟨policy, named, if_pos (isEmpty_iff.mpr empty)⟩
      · exact ⟨nofun, nofun⟩
  | integer _ | float _ | boolean _ | datetime _ | array _ _ => exact ⟨nofun, nofun⟩

/-! ## Entries -/

theorem decodeEntry_eq_ok_iff :
    decodeEntry config entry = .ok next ↔
      Setting.cancelPollInterval.Sets entry config next ∨
        Setting.overrunWork.Sets entry config next ∨
          Setting.sharePolicy.Sets entry config next := by
  rcases entry with ⟨⟨span, key⟩, value⟩
  simp only [Sets, Setting.cancelPollInterval, Setting.overrunWork, Setting.sharePolicy]
  unfold decodeEntry
  dsimp only
  split
  · simp only [bind_eq_ok_iff, decodeNumber_eq_ok_iff, String.reduceEq, false_and, or_false,
      true_and]
    constructor
    · rintro ⟨milliseconds, isNumber, taken⟩
      cases taken
      exact ⟨_, ⟨milliseconds, isNumber, rfl⟩, rfl⟩
    · rintro ⟨_, ⟨milliseconds, isNumber, rfl⟩, rfl⟩
      exact ⟨milliseconds, isNumber, rfl⟩
  · simp only [bind_eq_ok_iff, decodeNumber_eq_ok_iff, String.reduceEq, false_and, or_false,
      false_or, true_and]
    constructor
    · rintro ⟨number, isNumber, taken⟩
      cases taken
      have same : number.toUInt32.toNat = number :=
        UInt32.toNat_ofNat_of_lt (Nat.lt_succ_of_le isNumber.2)
      exact ⟨number.toUInt32, same.symm ▸ isNumber, rfl⟩
    · rintro ⟨work, isNumber, rfl⟩
      exact ⟨work.toNat, isNumber, by simp [pure, Except.pure]⟩
  · simp only [bind_eq_ok_iff, decodePolicy_eq_ok_iff, String.reduceEq, false_and,
      false_or, true_and]
    constructor
    · rintro ⟨policy, names, taken⟩
      cases taken
      exact ⟨policy, names, rfl⟩
    · rintro ⟨policy, names, rfl⟩
      exact ⟨policy, names, rfl⟩
  · next interval overrun policy =>
      refine ⟨nofun, ?_⟩
      rintro (⟨named, _⟩ | ⟨named, _⟩ | ⟨named, _⟩)
      · exact absurd named interval
      · exact absurd named overrun
      · exact absurd named policy

theorem exists_decodeEntry_iff (config : Config) (entry : Entry) :
    (∃ next, decodeEntry config entry = .ok next) ↔ Accepts entry := by
  simp only [decodeEntry_eq_ok_iff, exists_or, exists_sets_iff, Accepts]

theorem decodeEntry_takes (decoded : decodeEntry config entry = .ok next) :
    Takes config [entry] next := by
  rcases decodeEntry_eq_ok_iff.mp decoded with sets | sets | sets
  · exact ⟨sets.follows fun _ _ => rfl, sets.follows_other (by decide) fun _ _ => rfl,
      sets.follows_other (by decide) fun _ _ => rfl⟩
  · exact ⟨sets.follows_other (by decide) fun _ _ => rfl, sets.follows fun _ _ => rfl,
      sets.follows_other (by decide) fun _ _ => rfl⟩
  · exact ⟨sets.follows_other (by decide) fun _ _ => rfl,
      sets.follows_other (by decide) fun _ _ => rfl, sets.follows fun _ _ => rfl⟩

/-! ## Documents -/

theorem exists_foldlM_decodeEntry_iff (start : Config) (entries : List Entry) :
    (∃ config, entries.foldlM decodeEntry start = .ok config) ↔
      ∀ entry ∈ entries, Accepts entry := by
  induction entries generalizing start with
  | nil => exact ⟨fun _ => nofun, fun _ => ⟨start, rfl⟩⟩
  | cons entry entries induction =>
      rw [List.forall_mem_cons, ← exists_decodeEntry_iff start entry]
      simp only [List.foldlM_cons, bind_eq_ok_iff]
      constructor
      · rintro ⟨config, next, decoded, rest⟩
        exact ⟨⟨next, decoded⟩, (induction next).mp ⟨config, rest⟩⟩
      · rintro ⟨⟨next, decoded⟩, rest⟩
        rcases (induction next).mpr rest with ⟨config, rest⟩
        exact ⟨config, next, decoded, rest⟩

theorem foldlM_decodeEntry_takes (distinct : (entries.map (·.1.value)).Nodup)
    (decoded : entries.foldlM decodeEntry start = .ok config) : Takes start entries config := by
  induction entries generalizing start with
  | nil =>
      cases decoded
      exact ⟨.nil _ _, .nil _ _, .nil _ _⟩
  | cons entry entries induction =>
      rw [List.foldlM_cons, bind_eq_ok_iff] at decoded
      rcases decoded with ⟨next, first, rest⟩
      rcases List.nodup_cons.mp distinct with ⟨unused, others⟩
      have apart : ∀ other ∈ entries, other.1.value ≠ entry.1.value := fun other listed same =>
        unused (List.mem_map.mpr ⟨other, listed, same⟩)
      have one := decodeEntry_takes first
      have more := induction others rest
      exact ⟨one.cancelPollInterval.cons more.cancelPollInterval apart,
        one.overrunWork.cons more.overrunWork apart, one.sharePolicy.cons more.sharePolicy apart⟩

theorem sortedByKey_perm (entries : List Entry) : (sortedByKey entries).Perm entries :=
  List.mergeSort_perm _ _

theorem sortedByKey_eq_of_perm {first second : List Entry} (perm : first.Perm second)
    (distinct : (second.map (·.1.value)).Nodup) : sortedByKey first = sortedByKey second := by
  have sorted (entries : List Entry) : (sortedByKey entries).Pairwise fun first second =>
      decide (first.1.value ≤ second.1.value) = true := by
    apply List.pairwise_mergeSort
    · intro first second third
      simpa only [decide_eq_true_eq] using String.le_trans
    · intro first second
      simpa only [Bool.or_eq_true, decide_eq_true_eq] using String.le_total _ _
  have samePerm := (sortedByKey_perm first).trans (perm.trans (sortedByKey_perm second).symm)
  -- The order only compares keys, so two entries can be exchanged when their keys are the same.
  refine List.Perm.eq_of_pairwise ?_ (sorted first) (sorted second) samePerm
  intro entry other listed otherListed before after
  have same : entry.1.value = other.1.value :=
    String.le_antisymm (of_decide_eq_true before) (of_decide_eq_true after)
  have member : entry ∈ second := perm.mem_iff.mp ((sortedByKey_perm first).mem_iff.mp listed)
  have otherMember : other ∈ second := (sortedByKey_perm second).mem_iff.mp otherListed
  exact List.inj_on_of_nodup_map distinct member otherMember same

theorem decode_reads (distinct : (entries.map (·.1.value)).Nodup) :
    Reads entries (decode entries) := by
  have perm := sortedByKey_perm entries
  have sortedDistinct := (perm.map (·.1.value)).nodup_iff.mpr distinct
  constructor
  · rw [decode, exists_foldlM_decodeEntry_iff]
    exact forall_congr' fun entry => by rw [perm.mem_iff]
  · intro config decoded
    have takes := foldlM_decodeEntry_takes sortedDistinct decoded
    exact ⟨takes.cancelPollInterval.of_perm perm, takes.overrunWork.of_perm perm,
      takes.sharePolicy.of_perm perm⟩

theorem ofText_of_parsed {text : String} (parsed : Toml.parse? text = some entries) :
    ofText text = (decode entries).mapError (.content text) := by
  rw [ofText, parsed]

theorem Reads.mapError {ε δ : Type} {result : Except ε Config} (reads : Reads entries result)
    (cause : ε → δ) : Reads entries (result.mapError cause) := by
  have same (config : Config) : result.mapError cause = .ok config ↔ result = .ok config := by
    cases result <;> simp [Except.mapError]
  simpa only [Reads, same] using reads

/-- Whatever the order of its entries, a document with distinct keys holds settings when each
entry gives one of the three keys a value that it can have, and each setting is then the value of
its key or else its default. A text is no document, or one with distinct keys; and what is wrong
where no settings are read is the text or something in it. -/
theorem settings_read :
    (∀ entries : List Entry, (entries.map (·.1.value)).Nodup →
      Reads entries (decode entries) ∧
        ∀ other : List Entry, other.Perm entries → decode other = decode entries) ∧
      ∀ text,
        (Toml.parse? text = none → ofText text = .error .notADocument) ∧
          ∀ entries, Toml.parse? text = some entries →
            (entries.map (·.1.value)).Nodup ∧ Reads entries (ofText text) ∧
              ∀ error, ofText text = .error error → ∃ fault, error = .content text fault := by
  constructor
  · intro entries distinct
    refine ⟨decode_reads distinct, fun other perm => ?_⟩
    rw [decode, decode, sortedByKey_eq_of_perm perm distinct]
  · intro text
    refine ⟨fun unparsed => by rw [ofText, unparsed], fun entries parsed => ?_⟩
    have distinct := Toml.parse?_distinct parsed
    rw [ofText_of_parsed parsed]
    refine ⟨distinct, (decode_reads distinct).mapError _, fun error failed => ?_⟩
    cases decoded : decode entries with
    | error fault =>
        rw [decoded] at failed
        cases failed
        exact ⟨fault, rfl⟩
    | ok config =>
        rw [decoded] at failed
        cases failed

theorem settings_read_of_two_keys :
    let text := "share-policy.reject = []\noverrun-work = 0x1F\n"
    ∃ entries config, Toml.parse? text = some entries ∧
      (entries.map (·.1.value)).Nodup ∧ decode entries.reverse = decode entries ∧
      ofText text = .ok config ∧ config = ⟨.ofMilliseconds 100, 31, .reject⟩ := by
  intro text
  have shape :
      (Toml.parse? text).map (List.map fun entry =>
          (entry.1.value, number? .bits32 entry.2.value, (decodePolicy entry.2).toOption)) =
        some [("share-policy", none, some .reject), ("overrun-work", some 31, none)] := by
    decide +kernel
  rcases Option.map_eq_some_iff.mp shape with ⟨entries, parsed, listed⟩
  rcases List.map_eq_cons_iff.mp listed with ⟨first, _, rfl, one, others⟩
  rcases List.map_eq_cons_iff.mp others with ⟨second, _, rfl, two, noMore⟩
  cases List.map_eq_nil_iff.mp noMore
  simp only [Prod.mk.injEq, toOption_eq_some_iff, decodePolicy_eq_ok_iff,
    number?_eq_some_iff] at one two
  rcases one with ⟨policyKey, _, policy⟩
  rcases two with ⟨workKey, work, _⟩
  rcases settings_read with ⟨tables, texts⟩
  rcases (texts text).2 _ parsed with ⟨distinct, ⟨accepted, takes⟩, _⟩
  have acceptable := by
    refine accepted.mpr (List.forall_mem_cons.mpr ⟨?_, List.forall_mem_singleton.mpr ?_⟩)
    · exact .inr (.inr ⟨policyKey, .reject, policy⟩)
    · exact .inr (.inl ⟨workKey, 31, work⟩)
  rcases acceptable with ⟨config, read⟩
  refine ⟨_, config, parsed, distinct, (tables _ distinct).2 _ (List.reverse_perm _), read, ?_⟩
  have takes := takes config read
  have interval : config.cancelPollInterval = .ofMilliseconds 100 :=
    takes.cancelPollInterval.absent (by simp [Setting.cancelPollInterval, policyKey, workKey])
  have sameWork : config.overrunWork = 31 := by
    have given := takes.overrunWork.given second (.tail _ (.head _)) workKey
    have same := given.1.symm.trans work.1
    simp only [Value.integer.injEq, Option.some_inj] at same
    exact UInt32.toNat_inj.mp (Int.ofNat_inj.mp same)
  have samePolicy : config.sharePolicy = .reject := by
    have given := takes.sharePolicy.given first (.head _) policyKey
    have same := (decodePolicy_eq_ok_iff.mpr given).symm.trans (decodePolicy_eq_ok_iff.mpr policy)
    exact Except.ok.inj same
  cases config
  cases interval
  cases sameWork
  cases samePolicy
  rfl

end Config

end JobProgress
