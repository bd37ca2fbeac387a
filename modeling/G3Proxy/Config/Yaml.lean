import Mathlib.Data.UInt

/-!
# The `anyhow` and `g3_yaml` helpers the config parsers share

An `anyhow::Error` is its chain of messages, the outermost first: `anyhow!` makes a chain of
one, `.context` adds a message in front. `g3_yaml::foreach_kv` runs a setter over the
entries of a YAML map in order and stops at the first error; the config state the setter
closes over is threaded through it.

`g3_yaml` is not among the sources: `foreach_kv` is modelled from its uses, and a YAML
value is seen through `YamlShape`, the cases the parsers tell apart.
-/

namespace G3Proxy.Config

/-- An `anyhow::Error`, as its chain of messages, the outermost first. -/
abbrev AnyhowError := List String

def anyhow (msg : String) : AnyhowError :=
  [msg]

/-- `.context(msg)`: wrap an error in one more message. -/
def context {α : Type} (msg : String) : Except AnyhowError α → Except AnyhowError α
  | .error err => .error (msg :: err)
  | .ok value => .ok value

@[simp]
theorem context_ok {α : Type} (msg : String) (value : α) : context msg (.ok value) = .ok value :=
  rfl

@[simp]
theorem context_error {α : Type} (msg : String) (err : AnyhowError) :
    context msg (.error err : Except AnyhowError α) = .error (msg :: err) :=
  rfl

@[simp]
theorem context_eq_ok {α : Type} (msg : String) (result : Except AnyhowError α) (value : α) :
    context msg result = .ok value ↔ result = .ok value := by
  cases result <;> simp [context]

@[simp]
theorem mapError_eq_ok {ε ε' α : Type} (f : ε → ε') (x : Except ε α) (a : α) :
    x.mapError f = .ok a ↔ x = .ok a := by
  cases x <;> simp [Except.mapError]

theorem bind_eq_ok {ε α β : Type} (x : Except ε α) (f : α → Except ε β) (b : β) :
    x >>= f = .ok b ↔ ∃ a, x = .ok a ∧ f a = .ok b := by
  cases x <;> simp [bind, Except.bind]

/-- A YAML value as the parsers look at it: a string, a map with string keys, or any
other value. The values inside a map stay opaque, for the `g3_yaml` decoders. -/
inductive YamlShape (Yaml : Type) where
  | string (text : String)
  | hash (entries : List (String × Yaml))
  | other
deriving DecidableEq, Repr

/-- Modelled from its uses: `g3_yaml::foreach_kv` runs the setter on every entry of the map
in order and stops at the first error. The map's keys are taken as strings, and what it
adds to an error is not modelled: no result here reads an error it passes on. -/
def foreachKv {Yaml σ : Type} (set : σ → String → Yaml → Except AnyhowError σ) :
    σ → List (String × Yaml) → Except AnyhowError σ
  | state, [] => .ok state
  | state, (k, v) :: rest => match set state k v with
    | .error err => .error err
    | .ok state => foreachKv set state rest

theorem foreachKv_invariant {Yaml σ : Type} {set : σ → String → Yaml → Except AnyhowError σ}
    {P : σ → Prop} (entries : List (String × Yaml))
    (preserved : ∀ state k v state', (k, v) ∈ entries → P state → set state k v = .ok state' →
      P state')
    {state final : σ} (holds : P state) (done : foreachKv set state entries = .ok final) :
    P final := by
  induction entries generalizing state with
  | nil => exact Except.ok.inj done ▸ holds
  | cons entry rest inductionHypothesis =>
    obtain ⟨k, v⟩ := entry
    simp only [foreachKv] at done
    split at done
    · cases done
    · rename_i state' stepped
      exact inductionHypothesis (fun _ _ _ _ member => preserved _ _ _ _ (.tail _ member))
        (preserved _ _ _ _ (.head _) holds stepped) done

theorem foreachKv_error_of_mem {Yaml σ : Type} {set : σ → String → Yaml → Except AnyhowError σ}
    {entries : List (String × Yaml)} {k : String} {v : Yaml} (present : (k, v) ∈ entries)
    (rejected : ∀ state, ∃ err, set state k v = .error err) (state : σ) :
    ∃ err, foreachKv set state entries = .error err := by
  induction entries generalizing state with
  | nil => cases present
  | cons entry rest inductionHypothesis =>
    simp only [foreachKv]
    split
    · exact ⟨_, rfl⟩
    · rename_i state' stepped
      rcases List.mem_cons.mp present with rfl | later
      · obtain ⟨err, failed⟩ := rejected state
        rw [failed] at stepped
        cases stepped
      · exact inductionHypothesis later state'

/-- When each step adds to a record of the state what its entry emits, the whole run adds
what every entry emits, in the order of the map. -/
theorem foreachKv_trace {Yaml σ β : Type} {set : σ → String → Yaml → Except AnyhowError σ}
    (record : σ → List β) (emits : String → Yaml → List β)
    (appends : ∀ state k v state', set state k v = .ok state' →
      record state' = record state ++ emits k v)
    {entries : List (String × Yaml)} {state final : σ}
    (done : foreachKv set state entries = .ok final) :
    record final = record state ++ entries.flatMap fun entry => emits entry.1 entry.2 := by
  induction entries generalizing state with
  | nil => simp [Except.ok.inj done]
  | cons entry rest inductionHypothesis =>
    simp only [foreachKv] at done
    split at done
    · cases done
    · rename_i state' stepped
      rw [inductionHypothesis done, appends _ _ _ _ stepped, List.flatMap_cons, List.append_assoc]

/-- When each step adds to a record of the state some output its entry allows, the whole
run adds one allowed output per entry, in the order of the map. -/
theorem foreachKv_forall₂ {Yaml σ β : Type} {set : σ → String → Yaml → Except AnyhowError σ}
    (record : σ → List β) (allows : String → Yaml → List β → Prop)
    (appends : ∀ state k v state', set state k v = .ok state' →
      ∃ out, allows k v out ∧ record state' = record state ++ out)
    {entries : List (String × Yaml)} {state final : σ}
    (done : foreachKv set state entries = .ok final) :
    ∃ outs, List.Forall₂ (fun entry out => allows entry.1 entry.2 out) entries outs ∧
      record final = record state ++ outs.flatten := by
  induction entries generalizing state with
  | nil => exact ⟨[], .nil, by simp [Except.ok.inj done]⟩
  | cons entry rest inductionHypothesis =>
    simp only [foreachKv] at done
    split at done
    · cases done
    · rename_i state' stepped
      obtain ⟨out, allowed, appended⟩ := appends _ _ _ _ stepped
      obtain ⟨outs, corresponds, recorded⟩ := inductionHypothesis done
      exact ⟨out :: outs, .cons allowed corresponds,
        by rw [recorded, appended, List.flatten_cons, List.append_assoc]⟩

theorem foreachKv_append {Yaml σ : Type} (set : σ → String → Yaml → Except AnyhowError σ)
    (state : σ) (first second : List (String × Yaml)) :
    foreachKv set state (first ++ second) =
      (foreachKv set state first).bind fun mid => foreachKv set mid second := by
  induction first generalizing state with
  | nil => rfl
  | cons entry rest inductionHypothesis =>
    obtain ⟨k, v⟩ := entry
    simp only [List.cons_append, foreachKv]
    cases set state k v with
    | error err => rfl
    | ok state' => exact inductionHypothesis state'

@[simp]
theorem foreachKv_singleton {Yaml σ : Type} (set : σ → String → Yaml → Except AnyhowError σ)
    (state : σ) (k : String) (v : Yaml) : foreachKv set state [(k, v)] = set state k v := by
  simp only [foreachKv]
  cases set state k v <;> rfl

/-- The value a field of a config ends with after a map: what the last entry that sets
the field gives it, or its default when no entry sets it. `touches` says which entries set
the field, and `value k v x` that the entry `(k, v)` sets it to `x`. -/
def LastWins {Yaml β : Type} (entries : List (String × Yaml)) (touches : String → Yaml → Bool)
    (value : String → Yaml → β → Prop) (default final : β) : Prop :=
  match entries.reverse.find? fun entry => touches entry.1 entry.2 with
  | none => final = default
  | some (k, v) => value k v final

/-- When the entries that set a field set it whatever the state, and every other entry
leaves it alone, the last entry that sets it wins. -/
theorem foreachKv_lastWins {Yaml σ β : Type} {set : σ → String → Yaml → Except AnyhowError σ}
    (field : σ → β) (touches : String → Yaml → Bool) (value : String → Yaml → β → Prop)
    (untouched : ∀ state k v state', touches k v = false → set state k v = .ok state' →
      field state' = field state)
    (touched : ∀ state k v state', touches k v = true → set state k v = .ok state' →
      value k v (field state'))
    {entries : List (String × Yaml)} {state final : σ}
    (done : foreachKv set state entries = .ok final) :
    LastWins entries touches value (field state) (field final) := by
  induction entries using List.reverseRecOn generalizing final with
  | nil => simp [LastWins, Except.ok.inj done]
  | append_singleton entries entry inductionHypothesis =>
    obtain ⟨k, v⟩ := entry
    rw [foreachKv_append] at done
    obtain ⟨mid, first, last⟩ := (bind_eq_ok _ _ _).mp done
    rw [foreachKv_singleton] at last
    unfold LastWins
    rw [List.reverse_append, List.reverse_singleton, List.singleton_append, List.find?_cons]
    cases sets : touches k v
    · rw [untouched _ _ _ _ sets last]
      exact inductionHypothesis first
    · exact touched _ _ _ _ sets last

end G3Proxy.Config
