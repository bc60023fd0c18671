import MonitoringUpkeep.Proofs.GateKeeping
import MonitoringUpkeep.Proofs.Serving

/-!
# Reads of a store

A request that changes nothing leaves the store as it is. The failures with which a store answers it are
those of unreadable keys, labels and selectors, or tell of a missing object; a change of the gate is never
rejected in that way.
-/

namespace MonitoringUpkeep

namespace Failure

/-- The failures by which a change of the gate is rejected. -/
def Rejects : Failure → Prop
  | .singleWorker | .gateRejected _ => True
  | _ => False

theorem not_rejects_of_watch {f : Failure} (own : f.OfWatch) : ¬ f.Rejects := by
  cases f with
  | singleWorker | gateRejected => exact own.elim
  | _ => exact id

end Failure

theorem StoreKey.failsOnly_of (kind : Kind) (name space : Value) :
    FailsOnly Failure.OfWatch (StoreKey.of kind name space) := by
  have part (v : Value) : FailsOnly Failure.OfWatch (checkPart v) := by
    cases v with
    | arr | obj => exact .error trivial
    | _ => exact .ok ()
  exact .bind (part _) fun _ => .bind (part _) fun _ => .pure _

namespace Selector

theorem failsOnly_holds (labels : Value) (c : Clause) :
    FailsOnly Failure.OfWatch (c.holds labels) := by
  cases c with
  | hasValue label value => exact .bind (labels.failsOnly_member label) fun _ => .pure _
  | isThere label =>
    cases labels with
    | obj | arr | str => exact .ok _
    | _ => exact .error trivial

theorem failsOnly_accepts (selector labels : Value) :
    FailsOnly Failure.OfWatch (accepts selector labels) := by
  cases selector with
  | str s =>
    change FailsOnly Failure.OfWatch (allHold labels (clauses s))
    induction clauses s with
    | nil => exact .pure true
    | cons c rest ih =>
      refine .bind (failsOnly_holds labels c) fun holds => ?_
      cases holds with
      | true => exact ih
      | false => exact .pure false
  | _ => exact .error trivial

end Selector

namespace Store

theorem failsOnly_select (kind : Kind) (space selector : Value)
    (entries : List (StoreKey × Value)) :
    FailsOnly Failure.OfWatch (select kind space selector entries) := by
  induction entries with
  | nil => exact .pure []
  | cons e rest ih =>
    obtain ⟨key, v⟩ := e
    have labelled : FailsOnly Failure.OfWatch (labels v) :=
      .bind (.bind (v.failsOnly_member _) fun _ => .pure _) fun metadata =>
        .bind (metadata.failsOnly_member _) fun _ => .pure _
    unfold select
    -- The first split is on the namespace, the second on whether the object is among those asked for.
    dsimp only
    split <;> split
    · exact .bind labelled fun _ => .bind (Selector.failsOnly_accepts _ _) fun _ =>
        .bind ih fun _ => .pure _
    · exact ih
    · exact .bind labelled fun _ => .bind (Selector.failsOnly_accepts _ _) fun _ =>
        .bind ih fun _ => .pure _
    · exact ih

theorem reply_read (s : Store) {request : Request} (quiet : request.changes = false) :
    (s.reply request).2 = s := by
  cases request with
  | get | list => rfl
  | create | update | updateStatus | patch => cases quiet

/-- What the store answers to a request that changes nothing is no rejection. -/
theorem not_rejects_read (s : Store) {request : Request} (quiet : request.changes = false) :
    FailsOnly (fun f => ¬ f.Rejects) (s.reply request).1 := by
  cases request with
  | get kind name space =>
    refine .bind ((StoreKey.failsOnly_of kind name space).mono fun _ =>
      Failure.not_rejects_of_watch) fun key => ?_
    split
    · exact .pure _
    · exact .error id
  | list kind space selector =>
    intro f failed
    cases selected : s.list kind space selector with
    | ok vs => simp [reply, selected, Except.map] at failed
    | error g =>
      obtain rfl : g = f := by simpa [reply, selected, Except.map] using failed
      exact Failure.not_rejects_of_watch (failsOnly_select kind space selector s.entries g selected)
  | create | update | updateStatus | patch => cases quiet

end Store

/-- What is asked while a change of the gate is watched changes nothing. -/
theorem Gate.Watches.reads {g : Gate} {request : Request} (watches : g.Watches request) :
    request.changes = false := by
  cases watches <;> rfl

end MonitoringUpkeep
