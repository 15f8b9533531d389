import RollScript.Proofs.Evaluation.Fulfilment
import RollScript.Proofs.Evaluation.Keeping

/-!
# How programs end

A program without functions of the host ends with a value or with an error of the language, if its
steps, its room and its random bits suffice. Read `evaluateWithin_ends` first. The discipline of the
stacks leaves few ways to stop; what is new here is that no primitive is misapplied, since a machine
only gets hold of primitives whose guards have let their arguments pass.
-/

namespace RollScript

variable {ω : Type} {code : Expr → Prop}

/-- A function of the language is never misapplied. -/
theorem Function.Has.respond_fits {f : Function} (hf : f.Has (.standard code)) (world : World ω)
    (patience : Nat) (v : Value) (s : ω) : Fitting (f.respond world patience v s).1 := by
  cases hf with
  | closure => exact .ok _
  | @primitive p bound hp _ =>
      obtain ⟨hmember, hroom, hpassed⟩ := hp
      obtain ⟨guard, hguard⟩ : ∃ guard, p.guards[bound.length]? = some guard :=
        ⟨_, List.getElem?_eq_getElem hroom⟩
      have hcheck := (guard.check_stops v).fitting
      simp only [Function.respond, hguard]
      cases hchecked : guard.check v with
      | error stop =>
          rw [hchecked] at hcheck
          exact .error (hcheck stop rfl)
      | ok =>
          by_cases hmore : (bound ++ [v]).length < p.arity
          · simp only [if_pos hmore]
            exact .ok _
          · have hargs := hpassed.snoc hguard (Guard.refusal?_of_check hchecked)
            rw [List.take_of_length_le (Nat.le_of_not_lt hmore)] at hargs
            simp only [if_neg hmore]
            exact Routine.perform_fits (Registry.guards_declared hmember) hargs world patience s

namespace Machine

variable {world : World ω} {config : Config} {m m' : Machine ω} {S : ω → ω → Prop}

theorem callWithin_fits {f : Function} (hf : f.Has (.standard code)) (world : World ω)
    (patience budget : Nat) (v : Value) (s : ω) :
    Fitting (callWithin world patience budget f v s).1 := by
  unfold callWithin
  split
  · exact .error fun hstop => by cases hstop
  · exact hf.respond_fits world patience v s

/-- No primitive is misapplied while requests are fulfilled. -/
theorem Fulfils.fits (hT : (Trait.standard code).ties.Sound S world world config config)
    {budget : Nat} {requests : List Request} {calls : List (Function × Value)} {status : Status}
    (h : Fulfils world budget requests m calls status m')
    (hrequests : RequestsAlike (Trait.standard code).ties requests requests)
    (hm : Alike (Trait.standard code).ties S m m) :
    status ≠ .stopped (.aborted .misapplied) := by
  induction h with
  | done | unfinished | twice => simp
  | produce _ _ ih =>
      cases hrequests with
      | cons hrequest hrest =>
          cases hrequest with
          | produce hv => exact ih hrest { hm with pending := .some hv }
  | evaluate _ ih =>
      cases hrequests with
      | cons hrequest hrest =>
          cases hrequest with
          | evaluate hscene => exact ih hrest (hm.pushWork hscene)
  | push _ ih =>
      cases hrequests with
      | cons hrequest hrest =>
          cases hrequest with
          | push hscene hframe => exact ih hrest ((hm.pushFrame hframe).pushWork hscene)
  | call _ ih =>
      cases hrequests with
      | cons hrequest hrest =>
          cases hrequest with
          | call hf hv hframe => exact ih (.cons (.invoke hf hv) hrest) (hm.pushFrame hframe)
  | @refused budget patience f v rest m stop t hcall =>
      cases hrequests with
      | cons hrequest hrest =>
          cases hrequest with
          | invoke hf hv =>
              have hfits := callWithin_fits hf.2 world patience budget v m.world
              rw [hcall] at hfits
              simpa using hfits stop rfl
  | @invoke budget patience f v _ rest m _ _ _ t hcall _ ih =>
      cases hrequests with
      | cons hrequest hrest =>
          cases hrequest with
          | invoke hf hv =>
              have hanswers := callWithin_alike hT patience budget hf hv hm.world
              rw [hcall] at hanswers
              cases hanswers with
              | mk hasked hstate =>
                  cases hasked with
                  | ok hasked => exact ih (List.rel_append hasked hrest) (hm.in_world hstate)

theorem GoesOn.fits (hT : (Trait.standard code).ties.Sound S world world config config)
    {returned : Except Stop (List Request) × ω} {calls : List (Function × Value)} {status : Status}
    (h : GoesOn world m returned calls status m')
    (hreturned : ResultsAlike (RequestsAlike (Trait.standard code).ties) S returned returned)
    (hfits : Fitting returned.1) (hm : Alike (Trait.standard code).ties S m m) :
    status ≠ .stopped (.aborted .misapplied) := by
  cases h with
  | stopped stop t => simpa using hfits stop rfl
  | fulfilled hfulfils =>
      cases hreturned with
      | mk hasked hstate =>
          cases hasked with
          | ok hasked => exact hfulfils.fits hT hasked (hm.in_world hstate)

/-- No primitive is misapplied in a step. -/
theorem Steps.fits (hT : (Trait.standard code).ties.Sound S world world config config)
    {calls : List (Function × Value)} {status : Status} (h : Steps world config m calls status m')
    (hm : Alike (Trait.standard code).ties S m m) : status ≠ .stopped (.aborted .misapplied) := by
  have hhosts := hm.not_host
  obtain ⟨hwork, hframes, hpending, -, hresults, hs⟩ := hm
  cases h with
  | idle | unbalanced | finish => simp
  | @deliver work frame blame frames v _ results s returned _ _ _ _ hrequests hgoes =>
      obtain ⟨⟨hframe, -⟩, hrest⟩ := List.forall₂_cons.1 hframes
      have hafter : Alike (Trait.standard code).ties S ⟨work, frames, none, blame, results, s⟩
          ⟨work, frames, none, blame, results, s⟩ := ⟨hwork, hrest, .none, rfl, hresults, hs⟩
      cases hpending with
      | some hv =>
          have hreturned := frame_alike hT hframe hv hs
          rw [hrequests] at hreturned
          obtain ⟨returned, t⟩ := returned
          refine hgoes.fits hT hreturned ?_ hafter
          rintro stop rfl
          rcases Frame.requests_stop (hhosts (frame, blame) List.mem_cons_self) hrequests with
            ⟨-, hvalues⟩ | hdeep
          · rintro rfl
            cases hvalues
          · simp [hdeep]
  | @start expr env work frames _ results s returned _ _ _ hrequests hgoes =>
      obtain ⟨⟨-, hscene⟩, hrest⟩ := List.forall₂_cons.1 hwork
      have hafter : Alike (Trait.standard code).ties S ⟨work, frames, none, expr, results, s⟩
          ⟨work, frames, none, expr, results, s⟩ := ⟨hrest, hframes, .none, rfl, hresults, hs⟩
      have hreturned := hT.requests world.room hscene
      rw [hrequests] at hreturned
      refine hgoes.fits hT (.mk hreturned hs) ?_ hafter
      rintro stop rfl
      rcases Expr.requests_stop hrequests with ⟨-, x, -, hunbound⟩ | hdeep
      · simp [hunbound]
      · simp [hdeep]

end Machine

/-- Any code will do. -/
theorem any_code (expr child : Expr) (_ : True) (_ : child ∈ expr.children) : True :=
  trivial

open Machine

/-- A program without values from the host ends with a value or with an error of the language, unless
its steps or its room run out, if there are always random bits. -/
theorem evaluateWithin_ends {world : World ω} (hdraw : ∀ width s, world.draw width s ≠ none)
    {config : Config} {fuel : Nat} {tree : Expr} {s t : ω} {abort : Abort}
    (h : evaluateWithin fuel world config (rootEnvironment .standard []) tree s =
      (.aborted abort, t)) : abort = .tooDeep := by
  obtain ⟨final, hrun⟩ := evaluateWithin_alone any_code trivial h
  obtain ⟨last, hlast, ⟨hunfinished, -⟩ | ⟨patience, ⟨hover, houtcome⟩ | ⟨stop, hstop, hstopped⟩⟩⟩ :=
    run_ends hrun
  · cases hunfinished
  · obtain ⟨v, hv⟩ := ((start_orderly tree _ s).reaches hlast).step hover
    cases houtcome.trans hv
  · cases stop with
    | failed cause => cases hstopped
    | unfinished => cases hstopped
    | aborted other =>
        obtain rfl : abort = other := by simpa [stopped] using hstopped
        have hfits : Stop.aborted abort ≠ .aborted .misapplied :=
          fun hmisapplied => (steps_of_step hstop).fits (Trait.standard_sound any_code world config)
            (hlast.standard any_code trivial) (by rw [hmisapplied])
        have hforeseen := ((start_orderly tree _ s).reaches hlast).step hstop
        rcases hforeseen with hcall | ⟨x, hx⟩ | hdeep
        · cases hcall with
          | arguments harguments =>
              rcases harguments with hvalues | hmisapplied
              · cases hvalues
              · exact absurd hmisapplied hfits
          | draw hstop =>
              cases hstop with
              | exhausted hdry => exact absurd hdry (hdraw _ _)
          | host hhost =>
              cases hhost
              exact absurd rfl hfits
        · cases hx
        · cases hdeep
          rfl

end RollScript
