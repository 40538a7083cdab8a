/-
Module: FilterTree.Proofs.Filter.Session
Layer: Proofs
Purpose: A filter in use, over any number of requests in any order. What it answers to a request is told by the
  tree, by the options set last, and by the calls that its evaluator has received; nothing that is remembered
  shows. One step keeps the filter in step with the requests so far, and so does every run.
Imports: Mathlib, FilterTree.Filter
Main exports: Session.latestOptions, Session.callsFor, Session.replyBehind, Session.InStep,
  Session.InStep.run, Session.run_in_step
-/
import Mathlib
import FilterTree.Filter

namespace FilterTree

variable {ε α : Type}

/-- The options that a request sets. -/
def Request.options? : Request α → Option Query.Options
  | .setOptions options => some options
  | _ => none

/-- The records that a request hands to the evaluator. -/
def Request.records? : Request α → Option (List α)
  | .filter records => some records
  | .tryFilter records => some records
  | _ => none

namespace Session

/-! ### What requests say -/

/-- The options that are set last, or those of a new filter. -/
def latestOptions (requests : List (Request α)) : Query.Options :=
  (requests.filterMap Request.options?).getLast?.getD {}

/-- The calls that requests make of the evaluator: one for each filtering, in their order, with the text of the
    tree and the records of that request. -/
def callsFor (nodes : List Node) (requests : List (Request α)) : List (String × List α) :=
  (requests.filterMap Request.records?).map fun records => (Predicate.text nodes, records)

/-- The answer to a request behind others, when nothing is remembered but the options and the calls. -/
def replyBehind (nodes : List Node) (evaluate : List (String × List α) → Evaluator ε α)
    (before : List (Request α)) : Request α → Reply ε α
  | .setOptions _ => .done
  | .nodes => .nodes nodes
  | .count => .count nodes.length
  | .predicate => .predicate (Predicate.text nodes)
  | .remoteQuery => .remoteQuery (Query.envelope nodes (latestOptions before))
  | .filter records =>
    .kept ((evaluate (callsFor nodes before) (Predicate.text nodes) records).toOption.getD [])
  | .tryFilter records => .outcome (evaluate (callsFor nodes before) (Predicate.text nodes) records)

theorem latestOptions_append_single (before : List (Request α)) (request : Request α) :
    latestOptions (before ++ [request]) = request.options?.getD (latestOptions before) := by
  cases request <;> simp [latestOptions, Request.options?]

theorem callsFor_append (nodes : List Node) (before after : List (Request α)) :
    callsFor nodes (before ++ after) = callsFor nodes before ++ callsFor nodes after := by
  simp [callsFor]

/-- A request without records makes no call. -/
theorem callsFor_of_quiet {nodes : List Node} {request : Request α} (quiet : request.records? = none) :
    callsFor nodes [request] = [] := by
  simp [callsFor, quiet]

/-- Behind a request with records there is a call more than before it. -/
theorem callsFor_ne (nodes : List Node) {before after : List (Request α)} {request : Request α}
    (asked : request.records?.isSome = true) :
    callsFor nodes (before ++ request :: after) ≠ callsFor nodes before := by
  obtain ⟨records, hrecords⟩ := Option.isSome_iff_exists.mp asked
  simp [callsFor, hrecords]

/-- Evaluators that agree on the calls so far are answered alike. -/
theorem replyBehind_congr {nodes : List Node} {before : List (Request α)}
    {evaluate other : List (String × List α) → Evaluator ε α}
    (same : other (callsFor nodes before) = evaluate (callsFor nodes before)) :
    replyBehind nodes other before = replyBehind nodes evaluate before := by
  funext request
  cases request with
  | filter records => rw [replyBehind, replyBehind, same]
  | tryFilter records => rw [replyBehind, replyBehind, same]
  | _ => rfl

/-! ### Steps -/

/-- Filtering calls the evaluator once, with the text at hand, and gives what it keeps. -/
theorem answer_filter (evaluate : Evaluator ε α) (session : Session α) (records : List α) :
    session.answer evaluate (.filter records) =
      (.kept ((evaluate session.filter.predicate.1 records).toOption.getD []),
        ⟨session.filter.predicate.2, session.calls ++ [(session.filter.predicate.1, records)]⟩) := by
  simp only [answer, Filter.filterM, Filter.tryFilterM, StateT.run, noting, bind, StateT.bind]
  cases evaluate session.filter.predicate.1 records with
  | error fault => rfl
  | ok kept => rfl

/-- Filtering that may fail calls the evaluator once too, and gives what it answers. -/
theorem answer_tryFilter (evaluate : Evaluator ε α) (session : Session α) (records : List α) :
    session.answer evaluate (.tryFilter records) =
      (.outcome (evaluate session.filter.predicate.1 records),
        ⟨session.filter.predicate.2, session.calls ++ [(session.filter.predicate.1, records)]⟩) :=
  rfl

/-- A session is in step with the requests so far: it has its tree and the options set last, what it has
    compiled is the text of the tree, and its evaluator has had the calls of the requests. -/
structure InStep (nodes : List Node) (before : List (Request α)) (session : Session α) : Prop where
  tree : session.filter.nodes = nodes
  latest : session.filter.options = latestOptions before
  fresh : ∀ text, session.filter.compiled = some text → text = Predicate.text nodes
  called : session.calls = callsFor nodes before

theorem inStep_start (nodes : List Node) : InStep nodes ([] : List (Request α)) (start nodes) where
  tree := rfl
  latest := rfl
  fresh := fun _ h => nomatch h
  called := rfl

namespace InStep

variable {nodes : List Node} {before : List (Request α)} {session : Session α}

/-- Asked for its predicate, the filter gives the text of the tree, and it remembers just that. -/
theorem predicate (inStep : InStep nodes before session) : session.filter.predicate =
    (Predicate.text nodes, { session.filter with compiled := some (Predicate.text nodes) }) := by
  obtain ⟨⟨own, options, compiled⟩, calls⟩ := session
  obtain rfl : own = nodes := inStep.tree
  cases compiled with
  | none => rfl
  | some text =>
      obtain rfl : text = Predicate.text own := inStep.fresh text rfl
      rfl

/-- What a session in step answers is told by the requests so far. -/
theorem reply (inStep : InStep nodes before session)
    (evaluate : List (String × List α) → Evaluator ε α) (request : Request α) :
    (session.answer (evaluate session.calls) request).1 = replyBehind nodes evaluate before request := by
  cases request with
  | setOptions options => rfl
  | nodes => exact congrArg Reply.nodes inStep.tree
  | count => exact congrArg Reply.count (congrArg List.length inStep.tree)
  | predicate => exact congrArg Reply.predicate (congrArg Prod.fst inStep.predicate)
  | remoteQuery =>
      rw [answer, replyBehind, Filter.remoteQuery, inStep.tree, inStep.latest]
  | filter records => rw [answer_filter, replyBehind, inStep.predicate, inStep.called]
  | tryFilter records => rw [answer_tryFilter, replyBehind, inStep.predicate, inStep.called]

/-- After an answer a session is in step with one request more. -/
theorem next (inStep : InStep nodes before session) (evaluate : Evaluator ε α) (request : Request α) :
    InStep nodes (before ++ [request]) (session.answer evaluate request).2 := by
  have latest : latestOptions (before ++ [request]) = request.options?.getD session.filter.options := by
    rw [latestOptions_append_single, inStep.latest]
  have called : callsFor nodes (before ++ [request]) = session.calls ++ callsFor nodes [request] := by
    rw [callsFor_append, inStep.called]
  have fresh : ∀ text, some (Predicate.text nodes) = some text → text = Predicate.text nodes :=
    fun text h => (Option.some.inj h).symm
  cases request with
  | setOptions | nodes | count | remoteQuery =>
      rw [callsFor_of_quiet rfl, List.append_nil] at called
      exact ⟨inStep.tree, latest.symm, inStep.fresh, called.symm⟩
  | predicate =>
      rw [callsFor_of_quiet rfl, List.append_nil] at called
      rw [answer, inStep.predicate]
      exact ⟨inStep.tree, latest.symm, fresh, called.symm⟩
  | filter records =>
      rw [answer_filter, inStep.predicate]
      exact ⟨inStep.tree, latest.symm, fresh, called.symm⟩
  | tryFilter records =>
      rw [answer_tryFilter, inStep.predicate]
      exact ⟨inStep.tree, latest.symm, fresh, called.symm⟩

end InStep

/-! ### Runs -/

section Runs

variable {nodes : List Node} (evaluate : List (String × List α) → Evaluator ε α)

/-- A run keeps a session in step, and answers each of its requests as that is told by the ones before it. -/
theorem InStep.run {before : List (Request α)} {session : Session α} (inStep : InStep nodes before session)
    (requests : List (Request α)) :
    (∀ i : Nat, (session.run evaluate requests).1[i]? =
        requests[i]?.map (replyBehind nodes evaluate (before ++ requests.take i))) ∧
      InStep nodes (before ++ requests) (session.run evaluate requests).2 := by
  induction requests generalizing before session with
  | nil =>
      rw [List.append_nil]
      exact ⟨fun _ => rfl, inStep⟩
  | cons request rest ih =>
      obtain ⟨replies, last⟩ := ih (inStep.next (evaluate session.calls) request)
      rw [List.append_assoc] at last
      refine ⟨fun i => ?_, last⟩
      cases i with
      | zero =>
          rw [List.take_zero, List.append_nil]
          exact congrArg some (inStep.reply evaluate request)
      | succ i =>
          have later := replies i
          rw [List.append_assoc] at later
          exact later

/-- A filter in use, asked anything any number of times. Every answer is told by the tree, the options set last
    and the calls of the evaluator so far. The evaluator is called once for each filtering, in their order, with
    the text of the tree and the records at hand. The tree stays as it is. What the evaluator makes of one call,
    a failure or records, changes no answer behind it. -/
theorem run_in_step (nodes : List Node) (requests : List (Request α)) :
    let result := (start nodes).run evaluate requests
    (∀ i : Nat, result.1[i]? = requests[i]?.map (replyBehind nodes evaluate (requests.take i))) ∧
      result.2.calls = callsFor nodes requests ∧
      (result.2.filter.nodes = nodes ∧ result.2.filter.count = nodes.length) ∧
      ∀ (i : Nat) (request : Request α) (other : List (String × List α) → Evaluator ε α),
        requests[i]? = some request → request.records?.isSome = true →
        (∀ calls, calls ≠ callsFor nodes (requests.take i) → other calls = evaluate calls) →
        ((start nodes).run other requests).1.drop (i + 1) = result.1.drop (i + 1) := by
  intro result
  obtain ⟨replies, last⟩ := (inStep_start nodes).run evaluate requests
  refine ⟨replies, last.called, ⟨last.tree, congrArg List.length last.tree⟩, ?_⟩
  intro i request other hrequest asked same
  obtain ⟨otherReplies, -⟩ := (inStep_start nodes).run other requests
  apply List.ext_getElem?
  intro j
  have behind : requests.take (i + 1 + j) =
      requests.take i ++ request :: (requests.drop (i + 1)).take j := by
    rw [List.take_add, List.take_add_one, hrequest]
    simp
  have agree := same (callsFor nodes (requests.take (i + 1 + j)))
    (by rw [behind]; exact callsFor_ne nodes asked)
  rw [List.getElem?_drop, List.getElem?_drop, otherReplies, replies, List.nil_append, replyBehind_congr agree]

end Runs

end Session

end FilterTree
