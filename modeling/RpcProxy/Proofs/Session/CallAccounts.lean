import RpcProxy.Proofs.Session.Incidents

/-!
# Accounts of calls at every moment

Whatever incidents there are, at every moment the scene of a crowd is in order, with accounts of the
calls that were written and of the answers that were read (`Crowd.AccountsHold`). An account is read
off the steps of work that were made, and so is how requests for connections were taken back.

The accounts themselves are not a function of the past. Calls can be read from what connections were
sent, but not who has written them; so there are some accounts that fit, and each step of work
extends them. What would not be enough is to have accounts at the end only: a statement about a
moment in the middle needs those of that moment. Therefore `AccountsHold.accountedFor` gives
accounts before and after every step of work of every course, and for the crowd at the end.
-/

set_option autoImplicit false

namespace RpcProxy

/-- Who reads an answer to its end in a step of work, so that the connection is fit for another
call. It is decided by what the router of the task has in mind before and after. -/
def WorkStep.answer? (l : LinkId) (x : WorkStep (Crowd TcpPools)) : Option RouterRef :=
  Scene.answer? l x.task x.before.router? x.after.router?

namespace Crowd

/-- What holds of a crowd at every moment, `past` being the steps of work that were made. The
answers in the accounts are those of the past, so an answer that was read stays read; the calls are
tied to what was sent by `fits`. -/
structure AccountsHold (R : RouterRef → Request → Prop) (A : LinkId → Account)
    (past : List (WorkStep (Crowd TcpPools))) (c : Crowd TcpPools) : Prop where
  /-- The sessions of the crowd are in order and share their pools. -/
  joined : c.Joined
  /-- The accounts fit what routers hold and pools have sent. -/
  fits : Scene.AccountsFit R A c.scene
  /-- Each account has the answers that the past has given on its connection. -/
  answers : ∀ l, (A l).answers = past.filterMap (WorkStep.answer? l)
  /-- A connect was taken back once, if it was at all. -/
  withdrawn : ∀ handle, c.withdrawals handle = (c.side.pools.withdrawn? handle).toList

/-- A step of work, with what holds before and after it. -/
def AccountedFor (R : RouterRef → Request → Prop) (past : List (WorkStep (Crowd TcpPools)))
    (x : WorkStep (Crowd TcpPools)) : Prop :=
  ∃ A told A', AccountsHold R A past x.before ∧ Progress R told x ∧ AccountsHold R A' (past ++ [x]) x.after

variable {R : RouterRef → Request → Prop} {A : LinkId → Account} {c : Crowd TcpPools}
  {past : List (WorkStep (Crowd TcpPools))} {x : WorkStep (Crowd TcpPools)} {told : List PoolNote}

/-- Everything is in order before anything has happened. -/
theorem AccountsHold.start {side : HostSide TcpPools} (hpools : side.pools = {}) :
    AccountsHold R (fun _ => {}) [] { source := TcpPools.source, side } where
  joined := ⟨rfl, fun i s hs => (nomatch i, hs)⟩
  fits := .start (fun _ => rfl) (fun _ => rfl) hpools
  answers _ := rfl
  withdrawn handle := by
    show [] = ((side.pools.requests[handle]?).bind _).toList
    rw [hpools]
    rfl

theorem Tells.withdrawals {c' : Crowd TcpPools} (h : Tells told c c') (handle : HandleId) :
    ∃ front behind, c.withdrawals handle = front ++ behind ∧
      c'.withdrawals handle = front ++ (told.filterMap (·.withdraws? handle) ++ behind) := by
  obtain ⟨front, behind, hbefore, hafter⟩ := h
  refine ⟨front.filterMap (·.withdraws? handle), behind.filterMap (·.withdraws? handle), ?_, ?_⟩
  · rw [Crowd.withdrawals, hbefore, List.filterMap_append]
  · rw [Crowd.withdrawals, hafter, List.filterMap_append, List.filterMap_append]

/-- Progress keeps everything in order, and accounts grow. A request is taken back in a step of work
exactly if pools tell of it, so what was told and what the pools know keep pace. -/
theorem AccountsHold.progress (h : AccountsHold R A past x.before) (hp : Progress R told x) :
    ∃ A', AccountsHold R A' (past ++ [x]) x.after ∧ ∀ l, (A l).calls <+: (A' l).calls := by
  obtain ⟨A', hfits, hgrown⟩ := hp.advance.goes h.fits
  refine ⟨A', ⟨hp.joined, hfits, fun l => ?_, fun handle => ?_⟩, fun l => (hgrown l).1⟩
  · rw [(hgrown l).2, h.answers, List.filterMap_append]
    refine congrArg _ ?_
    show _ = [x].filterMap (WorkStep.answer? l)
    rw [List.filterMap_cons, List.filterMap_nil]
    show (x.answer? l).toList = _
    cases x.answer? l <;> rfl
  · obtain ⟨front, behind, hbefore, hafter⟩ := hp.tells.withdrawals handle
    have hhere := h.withdrawn handle
    -- Nothing new was told of the request; or this is the first time, and the last.
    rcases hp.advance.withdraws h.fits handle with ⟨hsame, hnone⟩ | ⟨hfree, hback, hone⟩
    · rw [hnone, List.nil_append] at hafter
      rw [hafter, ← hbefore, hhere]
      exact congrArg Option.toList hsame.symm
    · rw [show x.before.side.pools.withdrawn? handle = none from hfree, hbefore] at hhere
      obtain ⟨rfl, rfl⟩ := List.append_eq_nil_iff.mp hhere
      rw [hafter, hone, show x.after.side.pools.withdrawn? handle = some .keep from hback]
      rfl

/-- Whatever incidents there are, everything stays in order. The induction is on the incidents, and
within each of them on its steps of work. -/
theorem AccountsHold.course (es : List Incident) (h : AccountsHold R A past c)
    (hes : c.always allows es = true) (hR : ∀ ref r, c.Came es ref r → R ref r) :
    (∃ A', AccountsHold R A' (past ++ c.course es) (c.undergo es)) ∧
      WorkStep.Each (AccountedFor R) past (c.course es) := by
  induction es generalizing c past A with
  | nil =>
    refine ⟨⟨A, ?_⟩, trivial⟩
    show AccountsHold R A (past ++ []) c
    rwa [List.append_nil]
  | cons e es ih =>
    obtain ⟨he, hes⟩ := (Bool.and_eq_true _ _).mp hes
    have hsteps := h.joined.workSteps h.fits he fun ref r hr =>
      hR ref r (hr.mono (List.subset_append_left _ _))
    obtain ⟨⟨A₁, hfirst⟩, heach⟩ := (workStepsIn_path c e).keeps (Q := AccountedFor R)
      (P := fun past c => ∃ A, AccountsHold R A past c) ⟨A, h⟩ fun past x hx ⟨A₀, hbefore⟩ => by
        obtain ⟨told, hp, -⟩ := hsteps x hx hbefore.joined
        obtain ⟨A₁, hafter, -⟩ := hbefore.progress hp
        exact ⟨⟨A₀, told, A₁, hbefore, hp, hafter⟩, A₁, hafter⟩
    obtain ⟨⟨A₂, hend⟩, hlater⟩ := ih hfirst hes fun ref r hr =>
      hR ref r (hr.mono (List.subset_append_right _ _))
    refine ⟨⟨A₂, ?_⟩, heach.append hlater⟩
    show AccountsHold R A₂ (past ++ (c.workStepsIn e ++ (c.incur e).course es)) _
    rwa [← List.append_assoc]

/-- From the beginning on, everything is in order before and after every step of work, and at the
end. -/
theorem AccountsHold.accountedFor {es : List Incident} (h : AccountsHold (c.Came es) A [] c)
    (hes : c.always allows es = true) :
    (∃ A, AccountsHold (c.Came es) A (c.course es) (c.undergo es)) ∧
      ∀ earlier x later, c.course es = earlier ++ x :: later → AccountedFor (c.Came es) earlier x ∧
        WorkStep.Path x.after later (c.undergo es) ∧
        WorkStep.Each (AccountedFor (c.Came es)) (earlier ++ [x]) later := by
  obtain ⟨hend, heach⟩ := h.course es hes fun ref r hr => hr
  refine ⟨hend, fun earlier x later hsplit => ?_⟩
  have hpath := course_path c es
  change WorkStep.Each _ [] (c.course es) at heach
  rw [hsplit] at hpath heach
  exact hpath.split heach

end Crowd

end RpcProxy
