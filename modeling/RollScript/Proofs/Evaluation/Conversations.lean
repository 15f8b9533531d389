import RollScript.Proofs.Evaluation.Points

/-!
# Conversations

A combinator calls functions one after the other, and each time it goes on when the call is answered. What
passes between a combinator and the functions that it calls is its conversation. `Records` reads it off the
points of a run, where the calls and answers of other combinators in between do not count. `Talks` says
what a combinator goes on with by what has passed so far, whatever the functions do meanwhile. Read
`Records.stage` first: it ties the two together, and the theorems after it say from that how a conversation
goes on.
-/

namespace RollScript

variable {ω : Type} {config : Config}

/-- What passes between a combinator and the functions that it calls. -/
inductive Exchange where
  /-- The combinator calls a function. -/
  | call (f : Function) (v : Value)
  /-- The function that was called returns. -/
  | answer (v : Value)

/-! ## What a combinator goes on with -/

/-- The frames of combinators. -/
def Frame.isCombining : Frame → Bool
  | .mapped .. | .combining .. | .combined .. | .selected .. => true
  | .rolled .. | .judged .. | .exploded .. | .repeated .. => true
  | _ => false

theorem Frame.ne_finish_of_isCombining {frame : Frame} (h : frame.isCombining = true) : frame ≠ .finish := by
  rintro rfl
  cases h

/-- A world in which nothing happens. -/
def quiet : World Unit where
  draw _ _ := none
  call _ _ s := (.error .unfinished, s)
  resume _ _ _ s := (.error .unfinished, s)
  room := 0

/-- What the frame of a combinator goes on with when its call is answered, in any world. -/
def Frame.answered (config : Config) (frame : Frame) (v : Value) : Except Stop (List Request) :=
  (frame.requests quiet config v ()).1

theorem Frame.requests_eq_answered {frame : Frame} (hframe : frame.isCombining = true) (world : World ω)
    (v : Value) (s : ω) : frame.requests world config v s = (frame.answered config v, s) := by
  cases frame with
  | mapped | combining | combined | selected | rolled | judged | exploded | repeated => rfl
  | _ => cases hframe

/-- What a combinator asks for next, if it has not failed: a call for a frame of its own, or to deliver what
it returns. -/
inductive Continues : Except Stop (List Request) → Prop where
  | calls (f : Function) (v : Value) {frame : Frame} :
      frame.isCombining = true → Continues (.ok [.call f v frame])
  | returns (v : Value) : Continues (.ok [.produce v])
  | fails {stop : Stop} : stop ≠ .unfinished → Continues (.error stop)

theorem Combinator.nextBase_continues (roll again : Function) (done : List Value) (left : Nat) :
    Continues (.ok (nextBase roll again done left)) := by
  cases left with
  | zero => exact .returns _
  | succ left => exact .calls roll .unit rfl

theorem Frame.answered_continues {frame : Frame} (hframe : frame.isCombining = true) (v : Value) :
    Continues (frame.answered config v) := by
  cases frame with
  | mapped f done rest =>
      cases rest with
      | nil => exact .returns _
      | cons item rest => exact .calls f item rfl
  | combined f rest =>
      cases rest with
      | nil => exact .returns v
      | cons item rest => exact .calls f v rfl
  | combining f item rest =>
      cases v with
      | function g => exact .calls g item rfl
      | _ => exact .fails (by rintro ⟨⟩)
  | selected items =>
      cases v with
      | array selected => exact .returns _
      | _ => exact .fails (by rintro ⟨⟩)
  | rolled roll accept attempts => exact .calls accept v rfl
  | exploded roll again done left => exact .calls again v rfl
  | judged roll accept attempts result =>
      change Continues (Combinator.decideReroll config roll accept attempts result v)
      unfold Combinator.decideReroll
      split
      · exact .returns result
      · split
        · split
          · exact .returns result
          · exact .fails (by rintro ⟨⟩)
        · exact .calls roll .unit rfl
  | repeated roll again done left =>
      have hdecide : Frame.answered config (.repeated roll again done left) v =
          .ok (Combinator.nextBase roll again done (if v.truthy then left + 1 else left)) :=
        congrArg Except.ok (Combinator.decideExplode_eq roll again done left v)
      rw [hdecide]
      exact Combinator.nextBase_continues roll again done _
  | _ => cases hframe

/-- A combinator that begins in one way goes on in another when its calls so far have been answered. -/
inductive Talks (config : Config) (begin : Except Stop (List Request)) :
    List Exchange → Except Stop (List Request) → Prop where
  | begins : Talks config begin [] begin
  | answers {events : List Exchange} {f : Function} {v : Value} {frame : Frame} (w : Value) :
      Talks config begin events (.ok [.call f v frame]) →
      Talks config begin (events ++ [Exchange.call f v, .answer w]) (frame.answered config w)

namespace Talks

variable {begin next next' : Except Stop (List Request)} {events : List Exchange}

/-- A combinator only asks for calls and to deliver what it returns. -/
theorem continues (h : Talks config begin events next) (hbegin : Continues begin) : Continues next := by
  induction h with
  | begins => exact hbegin
  | answers w _ ih =>
      cases ih with
      | calls f v hframe => exact Frame.answered_continues hframe w

/-- What a combinator goes on with is determined by the conversation. -/
theorem unique (h : Talks config begin events next) (h' : Talks config begin events next') :
    next = next' := by
  induction h generalizing next' with
  | begins =>
      generalize hevents : ([] : List Exchange) = events at h'
      cases h' with
      | begins => rfl
      | answers => simp at hevents
  | @answers events f v frame w _ ih =>
      generalize hevents : events ++ [Exchange.call f v, .answer w] = all at h'
      cases h' with
      | begins => simp at hevents
      | @answers events' f' v' frame' w' h' =>
          obtain ⟨rfl, hlast⟩ := List.append_inj' hevents rfl
          cases hlast
          cases ih h'
          rfl

theorem length_even (h : Talks config begin events next) : Even events.length := by
  induction h with
  | begins => exact Even.zero
  | answers w _ ih =>
      rw [List.length_append]
      exact ih.add even_two

/-- As long as a call has not been answered the conversation is not complete. -/
theorem ne_unanswered (h : Talks config begin events next) {before : List Exchange} {f : Function}
    {v : Value} {other : Except Stop (List Request)} (hbefore : Talks config begin before other) :
    events ≠ before ++ [Exchange.call f v] := by
  rintro rfl
  have heven := h.length_even
  rw [List.length_append, Nat.even_add] at heven
  exact absurd (heven.1 hbefore.length_even) (by simp)

end Talks

/-! ## What is recorded -/

/-- What passes at a point between the combinator that was called for some number of waiting frames and the
functions that it calls: the combinator asks for a call, or a value comes to its frame. -/
def Point.exchange (depth : Nat) (p : Point ω) : List Exchange :=
  match p.requests, p.machine.pending with
  | .call f v _ :: _, _ => if p.machine.frames.length = depth then [.call f v] else []
  | [], some v => if p.machine.frames.length = depth + 1 then [.answer v] else []
  | _, _ => []

/-- The conversation of the combinator that is called at `p` for the waiting frames `base`, up to a point
that the machine comes to before these frames have their value. -/
inductive Records (world : World ω) (config : Config) (base : List (Frame × Expr)) (p : Point ω) :
    List Exchange → Point ω → Prop where
  | begins : Records world config base p [] p
  | moves {events : List Exchange} {q r : Point ω} : Records world config base p events q →
      (∀ v, ¬ q.Brings v base) → q.Moves world config r →
      Records world config base p (events ++ r.exchange base.length) r

namespace Point

variable {base frames : List (Frame × Expr)} {blame : Expr} {results : List Value} {s : ω} {room : Nat}
  {p q : Point ω}

theorem exchange_call (f : Function) (v : Value) (frame : Frame) :
    (asking base blame results s room (.call f v frame)).exchange base.length = [.call f v] :=
  if_pos rfl

theorem exchange_value (v : Value) :
    (⟨⟨[], base, some v, blame, results, s⟩, room, []⟩ : Point ω).exchange base.length = [] :=
  if_neg (Nat.ne_of_lt (Nat.lt_succ_self _))

/-- With a request left no value is on its way. -/
theorem not_brings_asking (request : Request) (v : Value) :
    ¬ (asking base blame results s room request).Brings v frames := by
  rintro ⟨hrequests, -⟩
  cases hrequests

theorem Brings.exchange {v : Value} {entry : Frame × Expr} (h : p.Brings v (entry :: base)) :
    p.exchange base.length = [.answer v] := by
  obtain ⟨⟨work, frames, pending, before, results, s⟩, room, requests⟩ := p
  obtain ⟨rfl, rfl, rfl⟩ := h
  exact if_pos rfl

/-- At work above a frame of the combinator nothing passes until it has its value. -/
theorem Busy.exchange {entry : Frame × Expr} (h : Busy (entry :: base) results p)
    (hbusy : ∀ v, ¬ p.Brings v (entry :: base)) : p.exchange base.length = [] := by
  cases h with
  | @asking top request =>
      have hlong : (top ++ entry :: base).length ≠ base.length := by
        rw [List.length_append, List.length_cons]
        omega
      cases request with
      | call => exact if_neg hlong
      | _ => rfl
  | evaluating => rfl
  | @bringing top v =>
      cases top with
      | nil => exact absurd ⟨rfl, rfl, rfl⟩ (hbusy v)
      | cons =>
          refine if_neg ?_
          simp only [List.cons_append, List.length_cons, List.length_append]
          omega

end Point

open Point

/-! ## The stages of a conversation -/

/-- The point at which a function is called with a value, for waiting frames. -/
abbrev Point.calling (f : Function) (v : Value) (frames : List (Frame × Expr)) (blame : Expr)
    (results : List Value) (s : ω) (room : Nat) : Point ω :=
  asking frames blame results s room (.invoke f v)

/-- A function that is called with a value begins as a combinator does, whatever the world. -/
structure Function.Opens (f : Function) (v : Value) (begin : Except Stop (List Request)) : Prop where
  responds : ∀ {ω : Type} (world : World ω) (patience : Nat) (s : ω),
    f.respond world patience v s = (begin, s)
  continues : Continues begin

/-- Where the combinator is in its conversation: it has just been called, it asks for a call, it waits for
the answer, it hears the answer, it delivers what it returns, or it has returned. -/
inductive Stage (config : Config) (base : List (Frame × Expr)) (blame : Expr) (results : List Value)
    (room : Nat) (f : Function) (v : Value) (begin : Except Stop (List Request)) :
    List Exchange → Point ω → Prop where
  | called (s : ω) :
      Stage config base blame results room f v begin [] (calling f v base blame results s room)
  | calls {events : List Exchange} {g : Function} {w : Value} {frame : Frame} (s : ω) (left : Nat) :
      Talks config begin events (.ok [.call g w frame]) →
      Stage config base blame results room f v begin (events ++ [Exchange.call g w])
        (asking base blame results s left (.call g w frame))
  | waits {events : List Exchange} {g : Function} {w : Value} {frame : Frame} {q : Point ω} :
      Talks config begin events (.ok [.call g w frame]) → Busy ((frame, blame) :: base) results q →
      (∀ u, ¬ q.Brings u ((frame, blame) :: base)) →
      Stage config base blame results room f v begin (events ++ [Exchange.call g w]) q
  | hears {events : List Exchange} {frame : Frame} (w : Value) (before : Expr) (s : ω) (left : Nat) :
      frame.isCombining = true → Talks config begin events (frame.answered config w) →
      Stage config base blame results room f v begin events
        ⟨⟨[], (frame, blame) :: base, some w, before, results, s⟩, left, []⟩
  | delivers {events : List Exchange} (w : Value) (s : ω) (left : Nat) :
      Talks config begin events (.ok [.produce w]) →
      Stage config base blame results room f v begin events
        (asking base blame results s left (.produce w))
  | returns {events : List Exchange} (w : Value) (before : Expr) (s : ω) (left : Nat) :
      Talks config begin events (.ok [.produce w]) →
      Stage config base blame results room f v begin events
        ⟨⟨[], base, some w, before, results, s⟩, left, []⟩

section Conversations

variable {world : World ω} {base : List (Frame × Expr)} {blame : Expr} {results : List Value} {room : Nat}
  {f : Function} {v : Value} {begin : Except Stop (List Request)} {events : List Exchange} {p q : Point ω}

/-- The combinator goes on with a call or with what it returns. -/
theorem Stage.goes_on {requests : List Request} (h : Talks config begin events (.ok requests))
    (hbegin : Continues begin) (s : ω) (left : Nat) :
    Stage config base blame results room f v begin
      (events ++ Point.exchange base.length ⟨⟨[], base, none, blame, results, s⟩, left, requests⟩)
      ⟨⟨[], base, none, blame, results, s⟩, left, requests⟩ := by
  cases h.continues hbegin with
  | calls g w =>
      rw [← asking, exchange_call]
      exact .calls s left h
  | returns w =>
      rw [show Point.exchange _ _ = [] from rfl, List.append_nil]
      exact .delivers w s left h

/-- A move takes the combinator to its next stage, or leaves it where it is. -/
theorem Stage.moves (hworld : world.Courteous)
    (h : Stage config base blame results room f v begin events p) (hopens : f.Opens v begin)
    (hbusy : ∀ u, ¬ p.Brings u base) (hmove : p.Moves world config q) :
    Stage config base blame results room f v begin (events ++ q.exchange base.length) q := by
  -- At work for a call the combinator waits until the answer comes to its frame.
  have hwork : ∀ {events : List Exchange} {g : Function} {w : Value} {frame : Frame},
      Talks config begin events (.ok [.call g w frame]) → Busy ((frame, blame) :: base) results q →
      Stage config base blame results room f v begin
        (events ++ [Exchange.call g w] ++ q.exchange base.length) q := by
    intro events g w frame htalks hq
    by_cases hbrings : ∃ u, q.Brings u ((frame, blame) :: base)
    · obtain ⟨u, hu⟩ := hbrings
      rw [hu.exchange, List.append_assoc]
      cases htalks.continues hopens.continues with
      | calls _ _ hframe =>
          cases hq with
          | asking => cases hu.1
          | evaluating => cases hu.2.1
          | @bringing top u' before s left htop =>
              obtain rfl : top = [] := by simpa using hu.2.2
              obtain rfl : u' = u := Option.some.inj hu.2.1
              exact .hears u' before s left hframe (.answers u' htalks)
    · have hnone : ∀ u, ¬ q.Brings u ((frame, blame) :: base) := fun u hu => hbrings ⟨u, hu⟩
      rw [hq.exchange hnone, List.append_nil]
      exact .waits htalks hq hnone
  cases h with
  | called s =>
      obtain ⟨-, patience, requests, t, hrespond, rfl⟩ := hmove.of_asking
      rw [hopens.responds] at hrespond
      obtain ⟨rfl, rfl⟩ := Prod.mk.inj hrespond
      exact Stage.goes_on .begins hopens.continues s _
  | @calls events g w frame s left htalks =>
      obtain rfl : q = _ := hmove.of_asking
      have hinvoke : (Request.invoke g w).IsInner := trivial
      exact hwork htalks (.asking blame s left hinvoke inner_nil)
  | waits htalks hbusyAbove hnone => exact hwork htalks (hmove.busy hworld hbusyAbove hnone)
  | @hears _ frame w before s left hframe htalks =>
      obtain ⟨requests, t, hrequests, rfl⟩ := hmove.of_delivering (Frame.ne_finish_of_isCombining hframe)
      rw [Frame.requests_eq_answered hframe] at hrequests
      obtain ⟨hanswered, rfl⟩ := Prod.mk.inj hrequests
      rw [hanswered] at htalks
      exact Stage.goes_on htalks hopens.continues s _
  | delivers w s left htalks =>
      obtain rfl : q = _ := hmove.of_asking
      rw [exchange_value, List.append_nil]
      exact .returns w blame s left htalks
  | returns w before s left => exact absurd ⟨rfl, rfl, rfl⟩ (hbusy w)

/-- What is recorded of a combinator is what it has to say. -/
theorem Records.stage (hworld : world.Courteous) {s : ω} (hopens : f.Opens v begin)
    (h : Records world config base (calling f v base blame results s room) events q) :
    Stage config base blame results room f v begin events q := by
  induction h with
  | begins => exact .called s
  | moves _ hbusy hmove ih => exact ih.moves hworld hopens hbusy hmove

/-! ## How a conversation goes on -/

namespace Records

variable {s : ω} {next : Except Stop (List Request)}

/-- What is recorded is complete, but for the answer to the last call at most. -/
theorem talks_or (hworld : world.Courteous) (hopens : f.Opens v begin)
    (h : Records world config base (calling f v base blame results s room) events q) :
    (∃ next, Talks config begin events next) ∨
      ∃ before g w frame, Talks config begin before (.ok [.call g w frame]) ∧
        events = before ++ [Exchange.call g w] := by
  cases h.stage hworld hopens with
  | called => exact .inl ⟨_, .begins⟩
  | calls _ _ htalks | waits htalks => exact .inr ⟨_, _, _, _, htalks, rfl⟩
  | hears _ _ _ _ _ htalks | delivers _ _ _ htalks | returns _ _ _ _ htalks => exact .inl ⟨_, htalks⟩

/-- What is recorded is the beginning of a conversation that the combinator can have. -/
theorem exists_talks (hworld : world.Courteous) (hopens : f.Opens v begin)
    (h : Records world config base (calling f v base blame results s room) events q) :
    ∃ all next, events <+: all ∧ Talks config begin all next := by
  rcases h.talks_or hworld hopens with ⟨next, htalks⟩ | ⟨before, g, w, frame, htalks, rfl⟩
  · exact ⟨events, next, List.prefix_refl _, htalks⟩
  · exact ⟨_, _, ⟨[.answer .unit], by simp⟩, htalks.answers .unit⟩

/-- What is recorded is complete if every call in it has its answer. -/
theorem talks_of_even (hworld : world.Courteous) (hopens : f.Opens v begin)
    (h : Records world config base (calling f v base blame results s room) events q)
    (heven : Even events.length) : ∃ next, Talks config begin events next := by
  rcases h.talks_or hworld hopens with htalks | ⟨before, g, w, frame, htalks, rfl⟩
  · exact htalks
  · rw [List.length_append, Nat.even_add] at heven
    exact absurd (heven.1 htalks.length_even) (by simp)

/-- The value that the waiting frames get is the one that the combinator delivers. -/
theorem talks_of_brings {w : Value} (hworld : world.Courteous) (hopens : f.Opens v begin)
    (h : Records world config base (calling f v base blame results s room) events q)
    (hbrings : q.Brings w base) : Talks config begin events (.ok [.produce w]) := by
  cases h.stage hworld hopens with
  | called | calls | delivers => cases hbrings.1
  | waits _ hbusy =>
      have hlong := hbusy.suffix.length_le
      rw [hbrings.2.2, List.length_cons] at hlong
      exact absurd hlong (Nat.not_succ_le_self _)
  | hears => exact absurd (congrArg List.length hbrings.2.2) (Nat.succ_ne_self _)
  | returns u before t left htalks =>
      obtain rfl : u = w := Option.some.inj hbrings.2.1
      exact htalks

end Records

/-- The next turn of the machine does what a rule has returned for the waiting frames, or it fails. -/
def TakesUp (world : World ω) (config : Config) (base : List (Frame × Expr)) (blame : Expr)
    (results : List Value) (q : Point ω) : Except Stop (List Request) → Prop
  | .ok requests =>
    ∃ t left, q.Moves world config ⟨⟨[], base, none, blame, results, t⟩, left, requests⟩
  | .error stop => ∃ x t, stop.failure? blame = some x ∧ q.Ends world config x.outcome t

/-- A machine that is stopped ends with a failure. -/
theorem Machine.exists_failure (m : Machine ω) {stop : Stop} (h : stop ≠ .unfinished) :
    ∃ x, stop.failure? m.blame = some x ∧ m.stopped stop = x.outcome := by
  have hfailure : ∃ x, stop.failure? m.blame = some x := by
    cases stop with
    | failed | aborted => exact ⟨_, rfl⟩
    | unfinished => exact absurd rfl h
  obtain ⟨x, hx⟩ := hfailure
  exact ⟨x, hx, Machine.stopped_eq_outcome hx⟩

namespace Records

variable {s : ω}

/-- When the last call has been answered the combinator has what it returns, or the next turn does what it
goes on with. -/
theorem takesUp {next : Except Stop (List Request)} (hworld : world.Courteous) (hopens : f.Opens v begin)
    (hroom : f.activations ≤ room)
    (h : Records world config base (calling f v base blame results s room) events q)
    (htalks : Talks config begin events next) :
    (∃ w, next = .ok [.produce w] ∧
        ((∃ t left, q = asking base blame results t left (.produce w)) ∨ q.Brings w base)) ∨
      (∀ w, ¬ q.Brings w base) ∧ TakesUp world config base blame results q next := by
  cases h.stage hworld hopens with
  | called s =>
      obtain rfl := htalks.unique .begins
      refine .inr ⟨not_brings_asking _, ?_⟩
      have hrespond := hopens.responds world 0 s
      cases hopens.continues with
      | calls | returns =>
          exact ⟨s, room - f.activations, .of_respond hroom hrespond⟩
      | @fails stop hstop =>
          obtain ⟨x, hx, hstopped⟩ := Machine.exists_failure ⟨[], base, none, blame, results, s⟩ hstop
          refine ⟨x, s, hx, ?_⟩
          rw [← hstopped]
          exact Ends.invoke [] hroom hrespond hstop
  | calls _ _ hbefore | waits hbefore => exact absurd rfl (htalks.ne_unanswered hbefore)
  | @hears _ frame w before t left hframe hanswered =>
      obtain rfl := htalks.unique hanswered
      refine .inr ⟨fun u hu => absurd (congrArg List.length hu.2.2) (Nat.succ_ne_self _), ?_⟩
      have hfinish : frame ≠ .finish := Frame.ne_finish_of_isCombining hframe
      have hrequests : frame.requests world config w t = (frame.answered config w, t) :=
        Frame.requests_eq_answered hframe _ w t
      generalize frame.answered config w = next at *
      cases htalks.continues hopens.continues with
      | calls | returns => exact ⟨t, world.room, .deliver [] blame base before results left hfinish hrequests⟩
      | @fails stop hstop =>
          obtain ⟨x, hx, hstopped⟩ := Machine.exists_failure ⟨[], base, none, blame, results, t⟩ hstop
          refine ⟨x, t, hx, ?_⟩
          rw [← hstopped]
          exact Ends.deliver [] blame base before results left hfinish hrequests hstop
  | delivers w t left hdelivers =>
      cases htalks.unique hdelivers
      exact .inl ⟨w, rfl, .inl ⟨t, left, rfl⟩⟩
  | returns w before t left hreturns =>
      cases htalks.unique hreturns
      exact .inl ⟨w, rfl, .inr ⟨rfl, rfl, rfl⟩⟩

/-- The combinator makes the call that it goes on with. -/
theorem comes_call {g : Function} {w : Value} {frame : Frame} (hworld : world.Courteous)
    (hopens : f.Opens v begin) (hroom : f.activations ≤ room)
    (h : Records world config base (calling f v base blame results s room) events q)
    (htalks : Talks config begin events (.ok [.call g w frame])) :
    ∃ r, Comes world config q r ∧
      Records world config base (calling f v base blame results s room)
        (events ++ [Exchange.call g w]) r := by
  rcases h.takesUp hworld hopens hroom htalks with ⟨_, hproduce, -⟩ | ⟨hbusy, t, left, hmove⟩
  · cases hproduce
  · refine ⟨_, .single hmove, ?_⟩
    have hnext := h.moves hbusy hmove
    rwa [← asking, exchange_call] at hnext

/-- The waiting frames get the value that the combinator delivers. -/
theorem comes_value {w : Value} (hworld : world.Courteous) (hopens : f.Opens v begin)
    (hroom : f.activations ≤ room)
    (h : Records world config base (calling f v base blame results s room) events q)
    (htalks : Talks config begin events (.ok [.produce w])) :
    ∃ r, Comes world config q r ∧
      Records world config base (calling f v base blame results s room) events r ∧
      r.Brings w base := by
  have hdeliver : ∀ {r : Point ω} {t : ω} {left : Nat}, r = asking base blame results t left (.produce w) →
      Records world config base (calling f v base blame results s room) events r →
      ∃ r', Comes world config r r' ∧
        Records world config base (calling f v base blame results s room) events r' ∧
        r'.Brings w base := by
    rintro _ t left rfl hr
    have hmove : (asking base blame results t left (.produce w)).Moves world config
        ⟨⟨[], base, some w, blame, results, t⟩, left, []⟩ := .produce left w [] rfl
    have hnext := hr.moves (not_brings_asking _) hmove
    rw [exchange_value, List.append_nil] at hnext
    exact ⟨_, .single hmove, hnext, rfl, rfl, rfl⟩
  rcases h.takesUp hworld hopens hroom htalks with ⟨u, hu, hq⟩ | ⟨hbusy, t, left, hmove⟩
  · cases hu
    rcases hq with ⟨t, left, rfl⟩ | hbrings
    · exact hdeliver rfl h
    · exact ⟨q, .refl, h, hbrings⟩
  · have hnext := h.moves hbusy hmove
    rw [show Point.exchange _ _ = [] from rfl, List.append_nil] at hnext
    obtain ⟨r, hcomes, hr⟩ := hdeliver rfl hnext
    exact ⟨r, .head hmove hcomes, hr⟩

/-- The machine ends with the failure of the combinator. -/
theorem ends_failed {stop : Stop} (hworld : world.Courteous) (hopens : f.Opens v begin)
    (hroom : f.activations ≤ room)
    (h : Records world config base (calling f v base blame results s room) events q)
    (htalks : Talks config begin events (.error stop)) :
    ∃ x t, stop.failure? blame = some x ∧ q.Ends world config x.outcome t := by
  rcases h.takesUp hworld hopens hroom htalks with ⟨_, hproduce, -⟩ | ⟨-, htakes⟩
  · cases hproduce
  · exact htakes

/-- If the machine ends before the waiting frames have their value, a function that has been called has not
returned, or the combinator has failed. -/
theorem unanswered_or_failed {o : Outcome} {t : ω} (hworld : world.Courteous) (hopens : f.Opens v begin)
    (hroom : f.activations ≤ room)
    (h : Records world config base (calling f v base blame results s room) events q)
    (hbusy : ∀ w, ¬ q.Brings w base) (hends : q.Ends world config o t) :
    (∃ before g w, events = before ++ [Exchange.call g w]) ∨
      ∃ stop x, Talks config begin events (.error stop) ∧ stop.failure? blame = some x ∧ o = x.outcome := by
  have hfailed : ∀ {stop : Stop} {m : Machine ω}, Talks config begin events (.error stop) →
      stop ≠ .unfinished → m.blame = blame → o = m.stopped stop →
      ∃ stop x, Talks config begin events (.error stop) ∧ stop.failure? blame = some x ∧ o = x.outcome := by
    rintro stop m htalks hstop rfl rfl
    obtain ⟨x, hx, hstopped⟩ := m.exists_failure hstop
    exact ⟨stop, x, htalks, hx, hstopped⟩
  cases h.stage hworld hopens with
  | called s =>
      cases hends with
      | lacking _ _ _ hlack => exact absurd hroom (Nat.not_le_of_lt hlack)
      | invoke _ _ hrespond hstop =>
          rw [hopens.responds] at hrespond
          obtain ⟨rfl, rfl⟩ := Prod.mk.inj hrespond
          exact .inr (hfailed .begins hstop rfl rfl)
  | calls | waits => exact .inl ⟨_, _, _, rfl⟩
  | hears w before u left hframe htalks =>
      obtain ⟨stop, hrequests, hstop, rfl⟩ := hends.of_delivering
      rw [Frame.requests_eq_answered hframe] at hrequests
      rw [(Prod.mk.inj hrequests).1] at htalks
      exact .inr (hfailed htalks hstop rfl rfl)
  | delivers =>
      cases hends with
      | twice _ _ _ _ _ hpending => cases hpending
  | returns w => exact absurd ⟨rfl, rfl, rfl⟩ (hbusy w)

end Records

end Conversations

/-- What is recorded happens in the run. -/
theorem Records.comes {world : World ω} {base : List (Frame × Expr)} {events : List Exchange}
    {p q : Point ω} (h : Records world config base p events q) : Comes world config p q := by
  induction h with
  | begins => exact .refl
  | moves _ _ hmove ih => exact ih.tail hmove

section Literals

variable {world : World ω} {base : List (Frame × Expr)} {blame : Expr} {results : List Value} {s : ω}
  {room : Nat} {events : List Exchange} {p q r : Point ω}

/-- Nothing passes at a move to a point at which no call is asked for and no value is brought. -/
theorem Records.silent (h : Records world config base p events q) (hbusy : ∀ v, ¬ q.Brings v base)
    (hmove : q.Moves world config r) (hsilent : r.exchange base.length = []) :
    Records world config base p events r := by
  have hnext := h.moves hbusy hmove
  rwa [hsilent, List.append_nil] at hnext

/-- The function that returns a literal number. -/
def constant (n : Float) : Function :=
  .closure (.ofString "x") (.number ⟨3, 4⟩ n) .empty

/-- A call of a function that returns a literal number is answered. -/
theorem Records.constant {n : Float} {v : Value} {frame : Frame}
    (h : Records world config base p events
      (asking base blame results s room (.call (constant n) v frame))) :
    ∃ before left, Records world config base p (events ++ [Exchange.answer (.number n)])
      ⟨⟨[], (frame, blame) :: base, some (.number n), before, results, s⟩, left, []⟩ := by
  let frames : List (Frame × Expr) := (frame, blame) :: base
  let env : Env := Env.empty.bind (.ofString "x") v
  have hcall : (asking base blame results s room (.call (RollScript.constant n) v frame)).Moves world config
      (asking frames blame results s room (.invoke (RollScript.constant n) v)) :=
    .call _ room _ v frame []
  have hrespond : (RollScript.constant n).respond world 0 v s =
      (.ok [.evaluate (.number ⟨3, 4⟩ n) env], s) := rfl
  have hinvoke : (asking frames blame results s room (.invoke (RollScript.constant n) v)).Moves world config
      (asking frames blame results s room (.evaluate (.number ⟨3, 4⟩ n) env)) :=
    .of_respond (Nat.zero_le room) hrespond
  have hevaluate : (asking frames blame results s room (.evaluate (.number ⟨3, 4⟩ n) env)).Moves world config
      ⟨⟨[(.number ⟨3, 4⟩ n, env)], frames, none, blame, results, s⟩, room, []⟩ :=
    .evaluate _ room _ env []
  have hstart : Moves world config ⟨⟨[(.number ⟨3, 4⟩ n, env)], frames, none, blame, results, s⟩, room, []⟩
      (asking frames (.number ⟨3, 4⟩ n) results s world.room (.produce (.number n))) :=
    .start [] frames blame results s room rfl
  have hproduce : (asking frames (.number ⟨3, 4⟩ n) results s world.room (.produce (.number n))).Moves world
      config ⟨⟨[], frames, some (.number n), .number ⟨3, 4⟩ n, results, s⟩, world.room, []⟩ :=
    .produce world.room _ [] rfl
  have hinvoked := (h.silent (not_brings_asking _) hcall rfl).silent (not_brings_asking _) hinvoke rfl
  have hevaluated := hinvoked.silent (not_brings_asking _) hevaluate rfl
  have hstarted := hevaluated.silent (fun u hu => by cases hu.2.1) hstart rfl
  have hbrought := hstarted.moves (not_brings_asking _) hproduce
  have hanswer : Point.Brings (.number n) frames
      (⟨⟨[], frames, some (.number n), .number ⟨3, 4⟩ n, results, s⟩, world.room, []⟩ : Point ω) :=
    ⟨rfl, rfl, rfl⟩
  rw [hanswer.exchange] at hbrought
  exact ⟨_, _, hbrought⟩

end Literals

/-! ## Rounds -/

/-- A conversation in rounds: `roll` is called, and then `judge` with what it has returned. Each round is
given by the two answers. -/
def rounds (roll judge : Function) (attempts : List (Value × Value)) : List Exchange :=
  attempts.flatMap fun (v, verdict) =>
    [.call roll .unit, .answer v, .call judge v, .answer verdict]

section Rounds

variable (roll judge : Function)

theorem rounds_concat (attempts : List (Value × Value)) (v verdict : Value) :
    rounds roll judge (attempts ++ [(v, verdict)]) =
      rounds roll judge attempts ++ [Exchange.call roll .unit, .answer v] ++
        [Exchange.call judge v, .answer verdict] := by
  simp [rounds]

theorem length_rounds (attempts : List (Value × Value)) :
    (rounds roll judge attempts).length = 4 * attempts.length := by
  induction attempts with
  | nil => rfl
  | cons attempt rest ih =>
      rw [rounds, List.flatMap_cons, List.length_append, ← rounds, ih]
      simp only [List.length_cons, List.length_nil]
      omega

theorem rounds_injective : Function.Injective (rounds roll judge) := by
  intro attempts others h
  induction attempts generalizing others with
  | nil =>
      have hlength := congrArg List.length h
      rw [length_rounds, length_rounds] at hlength
      exact (List.eq_nil_of_length_eq_zero (by simpa using hlength.symm)).symm
  | cons attempt rest ih =>
      cases others with
      | nil =>
          have hlength := congrArg List.length h
          rw [length_rounds, length_rounds] at hlength
          simp at hlength
      | cons other others =>
          obtain ⟨v, verdict⟩ := attempt
          obtain ⟨w, judgement⟩ := other
          simp only [rounds, List.flatMap_cons, List.cons_append, List.nil_append, List.cons.injEq,
            Exchange.answer.injEq, true_and] at h
          obtain ⟨rfl, -, rfl, h⟩ := h
          rw [ih h]

/-- In the middle of a round the conversation is not a number of rounds. -/
theorem rounds_ne_half (attempts others : List (Value × Value)) (v : Value) :
    rounds roll judge attempts ++ [Exchange.call roll .unit, .answer v] ≠ rounds roll judge others := by
  intro h
  have hlength := congrArg List.length h
  rw [List.length_append, length_rounds, length_rounds, List.length_cons, List.length_singleton] at hlength
  omega

theorem even_length_rounds (attempts : List (Value × Value)) :
    Even (rounds roll judge attempts).length := by
  rw [length_rounds]
  exact (even_two_mul 2).mul_right _

theorem even_length_half (attempts : List (Value × Value)) (v : Value) :
    Even (rounds roll judge attempts ++ [Exchange.call roll .unit, .answer v]).length := by
  rw [List.length_append]
  exact (even_length_rounds roll judge attempts).add even_two

end Rounds

/-! ## Calls in programs -/

/-- The machine comes from an expression to its value, whatever frames wait. -/
def Yields (env : Env) (expr : Expr) (v : Value) : Prop :=
  ∀ ⦃ω : Type⦄ (world : World ω) (config : Config) (work : List (Expr × Env)) (frames : List (Frame × Expr))
    (before : Expr) (results : List Value) (s : ω), ∃ after,
      Machine.Reaches world config ⟨(expr, env) :: work, frames, none, before, results, s⟩
        ⟨work, frames, some v, after, results, s⟩

section Yields

variable {env : Env} {span : Span} {callee argument : Expr} {v : Value}

theorem yields_name {x : Text} (h : env.lookup x = some v) : Yields env (.name span x) v :=
  fun _ _ _ _ _ _ _ _ => ⟨_, .single (Machine.turns_name h)⟩

/-- A primitive that lacks further arguments keeps the one that it is applied to. -/
theorem yields_partial {p : Primitive} {bound : List Value} (guard : Guard)
    (hcallee : Yields env callee (.function (.primitive p bound))) (hargument : Yields env argument v)
    (hguard : p.guards[bound.length]? = some guard) (hpass : guard.refusal? v = none)
    (hmore : bound.length + 1 < p.arity) :
    Yields env (.apply span callee argument) (.function (.primitive p (bound ++ [v]))) := by
  intro ω world config work frames before results s
  obtain ⟨blame, hreaches⟩ := hcallee world config work
    ((.callee argument env, .apply span callee argument) :: frames) (.apply span callee argument) results s
  obtain ⟨after, hrest⟩ := hargument world config work
    ((.argument (.primitive p bound), .apply span callee argument) :: frames)
    (.apply span callee argument) results s
  exact ⟨_, (Relation.ReflTransGen.head Machine.turns_apply hreaches).trans
    (.head Machine.turns_callee (hrest.tail (Machine.turns_partial hguard hpass hmore)))⟩

/-- An application comes to the call of the function that the callee yields. -/
theorem comes_calling {world : World ω} {f : Function} (hcallee : Yields env callee (.function f))
    (hargument : Yields env argument v) (s : ω) :
    Comes world config (Point.head (.start (.apply span callee argument) env s))
      (calling f v [(.finish, .apply span callee argument)] (.apply span callee argument) [] s
        world.room) := by
  obtain ⟨blame, hreaches⟩ := hcallee world config []
    [(.callee argument env, .apply span callee argument), (.finish, .apply span callee argument)]
    (.apply span callee argument) [] s
  obtain ⟨after, hrest⟩ := hargument world config []
    [(.argument f, .apply span callee argument), (.finish, .apply span callee argument)]
    (.apply span callee argument) [] s
  obtain ⟨left, hcomes⟩ := comes_of_reaches ((Relation.ReflTransGen.head Machine.turns_apply hreaches).trans
    (.head Machine.turns_callee hrest)) 0
  exact hcomes.tail (.deliver [] _ _ _ [] left (by simp) rfl)

end Yields

end RollScript
