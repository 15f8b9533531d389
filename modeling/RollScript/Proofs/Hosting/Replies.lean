import RollScript.Worker

/-!
# Replies on lines

A reply is written on one line: no control stands in it, since a JSON string spells controls out. So
replies that are written each on a line of its own can be told apart again (`lines_flatMap`). A worker
answers the lines that are not blank one after the other, each in the state that the one before it left
(`Worker.serve_answered`).
-/

namespace RollScript

variable {ω : Type}

/-! ## Texts without controls -/

/-- No character of a text is a control, a line feed for one. -/
def Text.Printable (t : Text) : Prop :=
  ∀ c ∈ t, 0x20 ≤ c.toNat

namespace Text.Printable

variable {s t : Text}

theorem append (hs : Printable s) (ht : Printable t) : Printable (s ++ t) := by
  intro c hc
  rcases List.mem_append.1 hc with hc | hc
  · exact hs c hc
  · exact ht c hc

theorem no_line_feed (h : Printable t) : CodePoint.scalar '\n' ∉ t := by
  intro hmem
  exact absurd (h _ hmem) (by decide)

/-- A text of characters that are no controls. -/
theorem ofString {text : String} (h : (text.toList.all fun c => 0x20 ≤ c.toNat) = true) :
    Printable (Text.ofString text) := by
  intro c hc
  obtain ⟨d, hd, rfl⟩ := List.mem_map.1 hc
  exact of_decide_eq_true (List.all_eq_true.1 h d hd)

end Text.Printable

theorem hexDigit_printable (n : Nat) (h : n < 16) : 0x20 ≤ (hexDigit n).toNat := by
  revert h
  revert n
  decide

theorem hexDigits_printable (n width : Nat) : ∀ c ∈ hexDigits n width, 0x20 ≤ c.toNat := by
  induction width generalizing n with
  | zero => exact fun c hc => absurd hc List.not_mem_nil
  | succ width ih =>
      intro c hc
      rcases List.mem_append.1 hc with hc | hc
      · exact ih (n / 16) c hc
      · rw [List.mem_singleton.1 hc]
        exact hexDigit_printable _ (Nat.mod_lt n (by decide))

theorem Json.escape_printable (c : CodePoint) : Text.Printable (escape c) := by
  unfold escape
  split
  case h_8 =>
    split
    · have hmark : ("\\u".toList.all fun d => 0x20 ≤ d.toNat) = true := by decide
      refine .ofString ?_
      rw [String.toList_append, List.all_append, hmark, hex, String.toList_ofList, Bool.true_and]
      exact List.all_eq_true.2 fun d hd => decide_eq_true (hexDigits_printable c.toNat 4 d hd)
    · next hc =>
        intro d hd
        rw [List.mem_singleton.1 hd]
        omega
  all_goals exact .ofString (by decide)

theorem Json.quote_printable (t : Text) : Text.Printable (quote t) := by
  have hmark : Text.Printable [CodePoint.scalar '"'] := by
    intro c hc
    rw [List.mem_singleton.1 hc]
    decide
  refine .append (fun c hc => ?_) hmark
  rcases List.mem_cons.1 hc with rfl | hc
  · exact hmark _ List.mem_cons_self
  · obtain ⟨d, -, hd⟩ := List.mem_flatMap.1 hc
    exact escape_printable d c hd

/-- A reply has no control in it. -/
theorem Reply.encode_printable (r : Reply) : Text.Printable r.encode := by
  refine .append (.append (.ofString ?_) (Json.quote_printable r.output)) (.ofString (by decide))
  cases r.success <;> decide

/-! ## Lines -/

theorem lines_append {t : Text} (h : CodePoint.scalar '\n' ∉ t) (rest : Text) :
    Text.lines (t ++ .scalar '\n' :: rest) = t :: rest.lines := by
  induction t with
  | nil => simp [Text.lines]
  | cons c t ih =>
      rw [List.mem_cons, not_or] at h
      rw [List.cons_append, Text.lines, if_neg (Ne.symm h.1), ih h.2]

/-- Texts without line feeds, each written on a line of its own, are the lines of what is written. -/
theorem lines_flatMap {texts : List Text} (h : ∀ t ∈ texts, CodePoint.scalar '\n' ∉ t) :
    Text.lines (texts.flatMap (· ++ [.scalar '\n'])) = texts := by
  induction texts with
  | nil => rfl
  | cons t rest ih =>
      obtain ⟨ht, hrest⟩ := List.forall_mem_cons.1 h
      rw [List.flatMap_cons, List.append_assoc, List.singleton_append, lines_append ht, ih hrest]

/-! ## Answers -/

namespace Worker

variable {e : Evaluator ω} {line : Text} {lines : List Text} {s : ω}

/-- Lines are answered one after the other, each in the state that the one before it left. -/
inductive Answered (e : Evaluator ω) : List Text → ω → List Text → ω → Prop where
  | nil (s : ω) : Answered e [] s [] s
  | cons {line reply : Text} {rest replies : List Text} {s t u : ω} :
      answer e line s = (.ok reply, t) → Answered e rest t replies u →
      Answered e (line :: rest) s (reply :: replies) u

theorem Answered.length {replies : List Text} {t : ω} (h : Answered e lines s replies t) :
    replies.length = lines.length := by
  induction h with
  | nil => rfl
  | cons _ _ ih => rw [List.length_cons, List.length_cons, ih]

/-- A reply is the record of a result. -/
theorem answer_encoded {reply : Text} {t : ω} (h : answer e line s = (.ok reply, t)) :
    ∃ r : Reply, reply = r.encode := by
  unfold answer at h
  split at h
  · cases h
    exact ⟨_, rfl⟩
  · next program _ =>
      cases hreport : report e program s with
      | mk reported state =>
          rw [hreport] at h
          cases reported with
          | error abort => cases h
          | ok r =>
              cases h
              exact ⟨r, rfl⟩

theorem Answered.printable {replies : List Text} {t : ω} (h : Answered e lines s replies t) :
    ∀ reply ∈ replies, Text.Printable reply := by
  induction h with
  | nil => exact fun reply hreply => absurd hreply List.not_mem_nil
  | cons hanswer _ ih =>
      obtain ⟨r, rfl⟩ := answer_encoded hanswer
      exact List.forall_mem_cons.2 ⟨r.encode_printable, ih⟩

theorem serve_blank (h : line.isBlank = true) : serve e (line :: lines) s = serve e lines s := by
  rw [serve, if_pos h]

theorem serve_cons (h : line.isBlank = false) :
    serve e (line :: lines) s =
      match answer e line s with
      | (.error abort, t) => (([], some abort), t)
      | (.ok reply, t) =>
        ((reply :: (serve e lines t).1.1, (serve e lines t).1.2), (serve e lines t).2) := by
  refine (if_neg (by simp [h])).trans ?_
  cases answer e line s with
  | mk answered t => cases answered <;> rfl

/-- Unless it is aborted, a worker answers the lines that are not blank. -/
theorem serve_answered (h : (serve e lines s).1.2 = none) :
    Answered e (lines.filter fun line => !line.isBlank) s (serve e lines s).1.1
      (serve e lines s).2 := by
  induction lines generalizing s with
  | nil => exact .nil s
  | cons line rest ih =>
      cases hblank : line.isBlank with
      | true =>
          rw [serve_blank hblank] at h ⊢
          rw [List.filter_cons_of_neg (by simp [hblank])]
          exact ih h
      | false =>
          rw [serve_cons hblank] at h ⊢
          rw [List.filter_cons_of_pos (by simp [hblank])]
          cases hanswer : answer e line s with
          | mk answered t =>
              rw [hanswer] at h
              cases answered with
              | error abort => cases h
              | ok reply => exact .cons hanswer (ih h)

/-- A worker is aborted by an answer. -/
theorem serve_aborted {abort : Abort} (h : (serve e lines s).1.2 = some abort) :
    ∃ line t, (answer e line t).1 = .error abort := by
  induction lines generalizing s with
  | nil => cases h
  | cons line rest ih =>
      cases hblank : line.isBlank with
      | true =>
          rw [serve_blank hblank] at h
          exact ih h
      | false =>
          rw [serve_cons hblank] at h
          cases hanswer : answer e line s with
          | mk answered t =>
              rw [hanswer] at h
              cases answered with
              | error other =>
                  cases h
                  exact ⟨line, s, by rw [hanswer]⟩
              | ok reply => exact ih h

end Worker

end RollScript
