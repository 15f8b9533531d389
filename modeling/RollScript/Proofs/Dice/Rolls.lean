import RollScript.Program
import RollScript.Proofs.Evaluation.Halting
import RollScript.Proofs.Numbers.Whole

/-!
# What a die shows

The function `d` draws from a source of random bits until a sample is below a bound, and it does so once for
a die with a number of sides and once for each level of nested faces. Read `die_shows` first: it says for any
source what `d` returns and how it fails. `Samples` and `Descends` are the runs of the two loops that come to
an end; `below_cases` and `face_cases` say that `Random.below` and `Die.face` make no others,
`Samples.exists_below` and `Descends.exists_face` that they make all of them, with enough patience.
-/

namespace RollScript

variable {ω : Type} {draw : Random.BitSource ω}

/-! ## Samples -/

/-- A throw that comes to nothing, because patience or bits ran out. -/
def Starved {α : Type} (a : Except Stop α) : Prop :=
  a = .error .unfinished ∨ a = .error (.aborted .exhausted)

theorem Starved.exists_stop {α : Type} {a : Except Stop α} (h : Starved a) (β : Type) :
    ∃ stop, a = .error stop ∧ Starved (.error stop : Except Stop β) := by
  rcases h with rfl | rfl
  · exact ⟨_, rfl, .inl rfl⟩
  · exact ⟨_, rfl, .inr rfl⟩

theorem not_starved_ok {α : Type} (v : α) : ¬ Starved (.ok v : Except Stop α) := by
  simp [Starved]

theorem not_starved_failed {α : Type} (cause : Cause) :
    ¬ Starved (.error (.failed cause) : Except Stop α) := by
  simp [Starved]

namespace Random

/-- Sampling that comes to an end: numbers as wide as the bound are drawn up to the first one below it. -/
inductive Samples (draw : BitSource ω) (bound : Nat) : ω → Nat → ω → Prop where
  | accept {s : ω} {n : Nat} {later : ω} : draw (bitLength bound) s = some (n, later) → n < bound →
      Samples draw bound s n later
  | reject {s : ω} {n : Nat} {next : ω} {m : Nat} {later : ω} :
      draw (bitLength bound) s = some (n, next) → bound ≤ n → Samples draw bound next m later →
      Samples draw bound s m later

variable {bound n : Nat} {s later : ω}

theorem Samples.lt (h : Samples draw bound s n later) : n < bound := by
  induction h with
  | accept _ hlt => exact hlt
  | reject _ _ _ ih => exact ih

theorem below_cases {patience : Nat} {a : Except Stop Nat} (h : below draw bound patience s = (a, later)) :
    (∃ n, a = .ok n ∧ Samples draw bound s n later) ∨ Starved a := by
  induction patience generalizing s with
  | zero =>
      cases h
      exact .inr (.inl rfl)
  | succ patience ih =>
      rw [below] at h
      split at h
      · cases h
        exact .inr (.inr rfl)
      · next n next hdraw =>
          split at h
          · next hlt =>
              cases h
              exact .inl ⟨n, rfl, .accept hdraw hlt⟩
          · next hge =>
              refine (ih h).imp_left ?_
              rintro ⟨m, rfl, hsamples⟩
              exact ⟨m, rfl, .reject hdraw (Nat.le_of_not_lt hge) hsamples⟩

theorem Samples.exists_below (h : Samples draw bound s n later) :
    ∃ patience, Random.below draw bound patience s = (.ok n, later) := by
  induction h with
  | accept hdraw hlt => exact ⟨1, by rw [Random.below, hdraw]; exact if_pos hlt⟩
  | reject hdraw hge _ ih =>
      obtain ⟨patience, h⟩ := ih
      exact ⟨patience + 1, by rw [Random.below, hdraw]; exact (if_neg (Nat.not_lt.2 hge)).trans h⟩

theorem choose_cases {α : Type} {patience : Nat} {head : α} {tail : List α} {a : Except Stop α}
    (h : choose draw patience head tail s = (a, later)) :
    (∃ i v, a = .ok v ∧ Samples draw (tail.length + 1) s i later ∧ (head :: tail)[i]? = some v) ∨
      Starved a := by
  rw [choose] at h
  generalize hbelow : below draw (tail.length + 1) patience s = sampled at h
  obtain ⟨sample, after⟩ := sampled
  obtain ⟨i, rfl, hsamples⟩ | hstarved := below_cases hbelow
  · cases h
    have hlt : i < (head :: tail).length := hsamples.lt
    refine .inl ⟨i, _, rfl, hsamples, ?_⟩
    rw [List.getElem?_eq_getElem hlt, List.getD_eq_getElem _ _ hlt]
  · obtain ⟨stop, rfl, hstop⟩ := hstarved.exists_stop _
    cases h
    exact .inr hstop

theorem Samples.exists_choose {α : Type} {head : α} {tail : List α} {v : α} {i : Nat}
    (h : Samples draw (tail.length + 1) s i later) (hv : (head :: tail)[i]? = some v) :
    ∃ patience, choose draw patience head tail s = (.ok v, later) := by
  obtain ⟨patience, hbelow⟩ := h.exists_below
  have hget : (head :: tail).getD i head = v := by rw [List.getD_eq_getElem?_getD, hv, Option.getD_some]
  refine ⟨patience, ?_⟩
  rw [choose, hbelow]
  exact congrArg (fun chosen => (Except.ok chosen, later)) hget

end Random

/-! ## Faces that are arrays -/

/-- The element of a nested array that indices lead to, the outermost first. -/
def Value.at? : Value → List Nat → Option Value
  | v, [] => some v
  | .array items, i :: path => items[i]?.bind fun v => v.at? path
  | _, _ :: _ => none

namespace Die

/-- The choices of faces, from a value downwards: on each level a sample below the number of faces is the
index of the face to go on with. -/
inductive Descends (draw : Random.BitSource ω) : Value → ω → List Nat → Value → ω → Prop where
  | here (v : Value) (s : ω) : Descends draw v s [] v s
  | into {items : List Value} {s : ω} {i : Nat} {next : ω} {v : Value} {path : List Nat} {w : Value}
      {later : ω} : Random.Samples draw items.length s i next → items[i]? = some v →
      Descends draw v next path w later → Descends draw (.array items) s (i :: path) w later

variable {v w : Value} {path : List Nat} {s later : ω}

theorem Descends.at? (h : Descends draw v s path w later) : v.at? path = some w := by
  induction h with
  | here v => cases v <;> rfl
  | into _ hv _ ih => rw [Value.at?, hv, Option.bind_some, ih]

theorem Descends.length_le (h : Descends draw v s path w later) {depth : Nat}
    (hdepth : v.isNestedAtMost depth = true) : path.length ≤ depth := by
  induction h generalizing depth with
  | here => exact Nat.zero_le _
  | into _ hv _ ih =>
      cases depth with
      | zero => cases hdepth
      | succ depth =>
          have hall := List.all_eq_true.1 hdepth _ (List.mem_of_getElem? hv)
          exact Nat.succ_le_succ (ih hall)

/-- What a roll makes of the value that it comes down to. -/
inductive Shows : Value → Except Stop Value → Prop where
  | face {v : Value} : (∀ items, v ≠ .array items) → Shows v (.ok v)
  | none : Shows (.array []) (.error (.domain .noFaces))

theorem face_cases {patience : Nat} {a : Except Stop Value} (h : face draw patience v s = (a, later)) :
    (∃ path w, Descends draw v s path w later ∧ Shows w a) ∨ Starved a := by
  induction patience generalizing v s with
  | zero =>
      cases h
      exact .inr (.inl rfl)
  | succ patience ih =>
      cases v with
      | array items =>
          cases items with
          | nil =>
              cases h
              exact .inl ⟨[], _, .here _ _, .none⟩
          | cons first rest =>
              rw [face] at h
              generalize hchoose : Random.choose draw patience first rest s = choice at h
              obtain ⟨chosen, next⟩ := choice
              obtain ⟨i, v, rfl, hsamples, hv⟩ | hstarved := Random.choose_cases hchoose
              · refine (ih h).imp_left ?_
                rintro ⟨path, w, hdescends, hshows⟩
                exact ⟨i :: path, w, .into hsamples hv hdescends, hshows⟩
              · obtain ⟨stop, rfl, hstop⟩ := hstarved.exists_stop Value
                cases h
                exact .inr hstop
      | number | string | unit | function =>
          cases h
          exact .inl ⟨[], _, .here _ _, .face (by simp)⟩

theorem Descends.exists_face (h : Descends draw v s path w later) {a : Except Stop Value}
    (hshows : Shows w a) : ∃ patience, face draw patience v s = (a, later) := by
  induction h with
  | here v s =>
      cases hshows with
      | none => exact ⟨1, rfl⟩
      | face hface =>
          cases v with
          | array items => exact absurd rfl (hface items)
          | number | string | unit | function => exact ⟨1, rfl⟩
  | @into items s i next v path w later hsamples hv _ ih =>
      cases items with
      | nil => exact absurd hsamples.lt (Nat.not_lt_zero i)
      | cons first rest =>
          obtain ⟨few, hface⟩ := ih hshows
          obtain ⟨more, hchoose⟩ := hsamples.exists_choose hv
          have hfinished : a ≠ .error .unfinished := by
            rintro rfl
            cases hshows
          refine ⟨max few more + 1, ?_⟩
          rw [face, Random.choose_mono (Nat.le_max_right few more) hchoose (by simp)]
          exact face_mono (Nat.le_max_left few more) hface hfinished

/-! ## The function -/

/-- The function `d` of the language. -/
def primitive : Primitive :=
  Registry.die "d" [.any] .faces

/-- With enough patience, the function returns a value and leaves the world in a state. -/
def Returns (world : World ω) (v : Value) (s : ω) (w : Value) (later : ω) : Prop :=
  ∃ patience, (Function.primitive primitive []).respond world patience v s = (.ok [.produce w], later)

/-- With enough patience, the function fails and leaves the world in a state. -/
def Fails (world : World ω) (v : Value) (s : ω) (cause : Cause) (later : ω) : Prop :=
  ∃ patience, (Function.primitive primitive []).respond world patience v s = (.error (.failed cause), later)

variable {world : World ω}

theorem respond_eq (patience : Nat) (v : Value) (s : ω) :
    (Function.primitive primitive []).respond world patience v s =
      ((rollFaces world.draw patience v s).1.map fun w => [.produce w],
        (rollFaces world.draw patience v s).2) := by
  have hperform : (Function.primitive primitive []).respond world patience v s =
      (Routine.die .faces).perform world patience [v] s := rfl
  have hroll : Die.faces.roll world.draw patience [v] s = rollFaces world.draw patience v s := rfl
  rw [hperform, Routine.perform, hroll]
  generalize rollFaces world.draw patience v s = rolled
  obtain ⟨a, later⟩ := rolled
  cases a <;> rfl

theorem returns_iff {later : ω} :
    Returns world v s w later ↔ ∃ patience, rollFaces world.draw patience v s = (.ok w, later) := by
  refine exists_congr fun patience => ?_
  rw [respond_eq]
  generalize rollFaces world.draw patience v s = rolled
  obtain ⟨a, after⟩ := rolled
  cases a <;> simp [Except.map]

theorem fails_iff {cause : Cause} {later : ω} :
    Fails world v s cause later ↔
      ∃ patience, rollFaces world.draw patience v s = (.error (.failed cause), later) := by
  refine exists_congr fun patience => ?_
  rw [respond_eq]
  generalize rollFaces world.draw patience v s = rolled
  obtain ⟨a, after⟩ := rolled
  cases a <;> simp [Except.map]

/-- What the function does with a number, in a world in a state. -/
structure Numbered (world : World ω) (x : Float) (s : ω) : Prop where
  /-- It returns the double of one more than a sample below the number of sides. -/
  returns : ∀ w later, Returns world (.number x) s w later ↔
    ∃ sides n : Nat, Binary.roundHalfUp? x = some (sides : Int) ∧
      Random.Samples world.draw sides s n later ∧ w = .number (Float.ofNat (n + 1))
  /-- What it returns is a whole number from one up to the number of sides. -/
  stays_in_range : ∀ w later, Returns world (.number x) s w later →
    ∃ (sides j : Nat) (r : Float), Binary.roundHalfUp? x = some (sides : Int) ∧ w = .number r ∧
      Binary.integer? r = some (j : Int) ∧ 1 ≤ j ∧ j ≤ sides
  /-- It fails if the number is not finite or makes no side, and then it draws nothing. -/
  fails : ∀ cause later, Fails world (.number x) s cause later ↔
    later = s ∧ (x.isFinite = false ∧ cause = .domain (.notFinite x) ∨
      ∃ k < 1, Binary.roundHalfUp? x = some k ∧ cause = .domain (.noSides x))

/-- What the function does with an array, in a world in a state. -/
structure Faced (world : World ω) (items : List Value) (s : ω) : Prop where
  /-- It returns a value that is no array, to which its choices have led. -/
  returns : ∀ w later, Returns world (.array items) s w later ↔
    (∀ elements, w ≠ .array elements) ∧ ∃ path, Descends world.draw (.array items) s path w later
  /-- It fails if its choices lead to an empty array. -/
  fails : ∀ cause later, Fails world (.array items) s cause later ↔
    cause = .domain .noFaces ∧ ∃ path, Descends world.draw (.array items) s path (.array []) later
  /-- Its choices lead to an element of the array, one level down with each of them. -/
  reaches : ∀ path w later, Descends world.draw (.array items) s path w later →
    (Value.array items).at? path = some w ∧
      ∀ depth, (Value.array items).isNestedAtMost depth = true → path.length ≤ depth
  /-- It does not fail if there is no empty array within the array. -/
  never_fails : (∀ path, (Value.array items).at? path ≠ some (.array [])) →
    ∀ cause later, ¬ Fails world (.array items) s cause later

theorem rollFaces_sides {draw : Random.BitSource ω} {x : Float} {k : Int} (h : Binary.roundHalfUp? x = some k)
    (patience : Nat) (s : ω) :
    rollFaces draw patience (.number x) s =
      if k < 1 then (.error (.domain (.noSides x)), s) else numbered draw patience k.toNat s := by
  simp only [rollFaces, Number.rounded, h]

theorem rollFaces_not_finite {draw : Random.BitSource ω} {x : Float} (h : x.isFinite = false)
    (patience : Nat) (s : ω) :
    rollFaces draw patience (.number x) s = (.error (.domain (.notFinite x)), s) := by
  have hrounded : Binary.roundHalfUp? x = none := if_neg (by simp [h])
  simp only [rollFaces, Number.rounded, hrounded]

theorem numbered_cases {draw : Random.BitSource ω} {patience sides : Nat} {a : Except Stop Value}
    {later : ω} (h : numbered draw patience sides s = (a, later)) :
    (∃ n, a = .ok (.number (Float.ofNat (n + 1))) ∧ Random.Samples draw sides s n later) ∨ Starved a := by
  rw [numbered] at h
  generalize hbelow : Random.below draw sides patience s = sampled at h
  obtain ⟨sample, after⟩ := sampled
  obtain ⟨n, rfl, hsamples⟩ | hstarved := Random.below_cases hbelow
  · cases h
    exact .inl ⟨n, rfl, hsamples⟩
  · obtain ⟨stop, rfl, hstop⟩ := hstarved.exists_stop _
    cases h
    exact .inr hstop

theorem numbered_returns (x : Float) (w : Value) (later : ω) :
    Returns world (.number x) s w later ↔
      ∃ sides n : Nat, Binary.roundHalfUp? x = some (sides : Int) ∧
        Random.Samples world.draw sides s n later ∧ w = .number (Float.ofNat (n + 1)) := by
  rw [returns_iff]
  constructor
  · rintro ⟨patience, h⟩
    cases hfinite : x.isFinite with
    | false =>
        rw [rollFaces_not_finite hfinite] at h
        cases h
    | true =>
        obtain ⟨k, hk⟩ := exists_roundHalfUp hfinite
        rw [rollFaces_sides hk] at h
        split at h
        · cases h
        · next hpos =>
            obtain ⟨n, hw, hsamples⟩ | hstarved := numbered_cases h
            · refine ⟨k.toNat, n, ?_, hsamples, Except.ok.inj hw⟩
              rw [hk, Int.toNat_of_nonneg (by omega)]
            · exact absurd hstarved (not_starved_ok w)
  · rintro ⟨sides, n, hsides, hsamples, rfl⟩
    obtain ⟨patience, hbelow⟩ := hsamples.exists_below
    have hlt := hsamples.lt
    refine ⟨patience, ?_⟩
    rw [rollFaces_sides hsides, if_neg (by omega), Int.toNat_natCast, numbered, hbelow]

theorem numbered_fails (x : Float) (cause : Cause) (later : ω) :
    Fails world (.number x) s cause later ↔
      later = s ∧ (x.isFinite = false ∧ cause = .domain (.notFinite x) ∨
        ∃ k < 1, Binary.roundHalfUp? x = some k ∧ cause = .domain (.noSides x)) := by
  rw [fails_iff]
  constructor
  · rintro ⟨patience, h⟩
    cases hfinite : x.isFinite with
    | false =>
        rw [rollFaces_not_finite hfinite] at h
        cases h
        exact ⟨rfl, .inl ⟨rfl, rfl⟩⟩
    | true =>
        obtain ⟨k, hk⟩ := exists_roundHalfUp hfinite
        rw [rollFaces_sides hk] at h
        split at h
        · next hlt =>
            cases h
            exact ⟨rfl, .inr ⟨k, hlt, hk, rfl⟩⟩
        · obtain ⟨_, ha, -⟩ | hstarved := numbered_cases h
          · cases ha
          · exact absurd hstarved (not_starved_failed cause)
  · rintro ⟨rfl, ⟨hfinite, rfl⟩ | ⟨k, hlt, hk, rfl⟩⟩
    · exact ⟨0, rollFaces_not_finite hfinite 0 later⟩
    · exact ⟨0, by rw [rollFaces_sides hk, if_pos hlt]; rfl⟩

/-- A sample below the number of sides stays within it when it is made a double. -/
theorem numbered_in_range (x : Float) (w : Value) (later : ω) (h : Returns world (.number x) s w later) :
    ∃ (sides j : Nat) (r : Float), Binary.roundHalfUp? x = some (sides : Int) ∧ w = .number r ∧
      Binary.integer? r = some (j : Int) ∧ 1 ≤ j ∧ j ≤ sides := by
  obtain ⟨sides, n, hsides, hsamples, rfl⟩ := (numbered_returns x w later).1 h
  obtain ⟨j, hj, hlow, hhigh⟩ :=
    integer?_ofNat (representable_of_roundHalfUp hsides) (Nat.succ_pos n) hsamples.lt
  exact ⟨sides, j, _, hsides, rfl, hj, hlow, hhigh⟩

theorem faced_returns (items : List Value) (w : Value) (later : ω) :
    Returns world (.array items) s w later ↔
      (∀ elements, w ≠ .array elements) ∧ ∃ path, Descends world.draw (.array items) s path w later := by
  rw [returns_iff]
  constructor
  · rintro ⟨patience, h⟩
    obtain ⟨path, v, hdescends, hshows⟩ | hstarved := face_cases h
    · cases hshows with
      | face hface => exact ⟨hface, path, hdescends⟩
    · exact absurd hstarved (not_starved_ok w)
  · rintro ⟨hface, path, hdescends⟩
    exact hdescends.exists_face (.face hface)

theorem faced_fails (items : List Value) (cause : Cause) (later : ω) :
    Fails world (.array items) s cause later ↔
      cause = .domain .noFaces ∧ ∃ path, Descends world.draw (.array items) s path (.array []) later := by
  rw [fails_iff]
  constructor
  · rintro ⟨patience, h⟩
    obtain ⟨path, v, hdescends, hshows⟩ | hstarved := face_cases h
    · cases hshows with
      | none => exact ⟨rfl, path, hdescends⟩
    · exact absurd hstarved (not_starved_failed cause)
  · rintro ⟨rfl, path, hdescends⟩
    exact hdescends.exists_face .none

end Die

open Die in
/-- The function `d` in any world: with a number it returns a whole double from one up to the number that is
rounded, at every magnitude, or it fails without a draw. With an array it goes down by one choice for each
level, and returns what it comes to unless that is an empty array. -/
theorem die_shows (world : World ω) :
    Registry.standard.get? (.ofString "d") = some Die.primitive ∧
    DomainCause.message .noFaces = "Cannot roll a die with no faces" ∧
    (∀ x s, Numbered world x s) ∧ ∀ items s, Faced world items s := by
  refine ⟨rfl, rfl, fun x s => ?_, fun items s => ?_⟩
  · exact ⟨numbered_returns x, numbered_in_range x, numbered_fails x⟩
  · refine ⟨faced_returns items, faced_fails items, fun path w later h => ?_, ?_⟩
    · exact ⟨h.at?, fun depth => h.length_le⟩
    · intro hnone cause later h
      obtain ⟨-, path, hdescends⟩ := (faced_fails items cause later).1 h
      exact hnone path hdescends.at?

end RollScript
