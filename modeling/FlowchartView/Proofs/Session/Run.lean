import FlowchartView.Session

namespace FlowchartView.Session

def Request.change? : Request → Option Visibility.Change
  | .change c => some c
  | _ => none

def Request.renderHandler? : Request → Option Handler
  | .onRender h => some h
  | _ => none

def Request.clickHandler? : Request → Option Handler
  | .onClick h => some h
  | _ => none

theorem handle_frame (s : Session) (q : Request) : (s.handle q).1.diagram = s.diagram ∧
    (s.handle q).1.reachability = s.reachability ∧ (s.handle q).1.style = s.style := by
  cases q <;> exact ⟨rfl, rfl, rfl⟩

theorem visibility_handle (s : Session) (q : Request) : (s.handle q).1.visibility =
    s.visibility.applyAll s.reachability q.change?.toList := by
  cases q <;> rfl

theorem handlers_handle (s : Session) (q : Request) :
    (s.handle q).1.renderHandlers = s.renderHandlers ++ q.renderHandler?.toList ∧
      (s.handle q).1.clickHandlers = s.clickHandlers ++ q.clickHandler?.toList := by
  cases q with
  | onRender h => exact ⟨rfl, (List.append_nil _).symm⟩
  | onClick h => exact ⟨(List.append_nil _).symm, rfl⟩
  | _ => exact ⟨(List.append_nil _).symm, (List.append_nil _).symm⟩

theorem handleAll_frame (s : Session) (requests : List Request) :
    (s.handleAll requests).1.diagram = s.diagram ∧
      (s.handleAll requests).1.reachability = s.reachability ∧
      (s.handleAll requests).1.style = s.style := by
  induction requests generalizing s with
  | nil => exact ⟨rfl, rfl, rfl⟩
  | cons q requests ih =>
    obtain ⟨hdiagram, hreachability, hstyle⟩ := s.handle_frame q
    rw [← hdiagram, ← hreachability, ← hstyle]
    exact ih (s.handle q).1

theorem visibility_handleAll (s : Session) (requests : List Request) :
    (s.handleAll requests).1.visibility =
      s.visibility.applyAll s.reachability (requests.filterMap Request.change?) := by
  induction requests generalizing s with
  | nil => rfl
  | cons q requests ih =>
    have hrun : (s.handleAll (q :: requests)).1 = ((s.handle q).1.handleAll requests).1 := rfl
    rw [hrun, ih, visibility_handle, (s.handle_frame q).2.1]
    cases q <;> rfl

theorem foldl_change (s : Session) (changes : List Visibility.Change) :
    changes.foldl change s =
      { s with visibility := s.visibility.applyAll s.reachability changes } := by
  induction changes generalizing s with
  | nil => rfl
  | cons c changes ih =>
    rw [List.foldl_cons, ih]
    rfl

theorem handlers_handleAll (s : Session) (requests : List Request) :
    (s.handleAll requests).1.renderHandlers =
        s.renderHandlers ++ requests.filterMap Request.renderHandler? ∧
      (s.handleAll requests).1.clickHandlers =
        s.clickHandlers ++ requests.filterMap Request.clickHandler? := by
  induction requests generalizing s with
  | nil => exact ⟨(List.append_nil _).symm, (List.append_nil _).symm⟩
  | cons q requests ih =>
    have hrun : (s.handleAll (q :: requests)).1 = ((s.handle q).1.handleAll requests).1 := rfl
    obtain ⟨hrender, hclick⟩ := ih (s.handle q).1
    rw [hrun, hrender, hclick, (s.handlers_handle q).1, (s.handlers_handle q).2,
      List.append_assoc, List.append_assoc]
    cases q <;> exact ⟨rfl, rfl⟩

end FlowchartView.Session
