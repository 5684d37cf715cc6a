import Mathlib.Data.List.Induction
import Mathlib.Data.List.ReduceOption
import ScrapeBridge.FanIn

namespace ScrapeBridge

section

variable {σ ε β : Type} (apply : σ → ε → σ) (output? : σ → ε → Option β) (s : σ)

theorem outputs_append (events later : List ε) :
    outputs apply output? s (events ++ later) =
      outputs apply output? s events ++ outputs apply output? (events.foldl apply s) later := by
  induction events generalizing s with
  | nil => rfl
  | cons e events ih =>
    rw [List.cons_append, outputs, outputs, ih, List.append_assoc, List.foldl_cons]

theorem outputs_concat (events : List ε) (e : ε) :
    outputs apply output? s (events ++ [e]) =
      outputs apply output? s events ++ (output? (events.foldl apply s) e).toList := by
  rw [outputs_append, outputs, outputs, List.append_nil]

end

namespace Inlet

variable {α : Type}

def feed (i : Inlet α) : FanIn.Event α → Inlet α
  | .push index a => if i.index = index then i.push a else i
  | .finish index => if i.index = index then i.finish else i
  | .stop => i
  | .ask _ => i

def fed (i : Inlet α) (events : List (FanIn.Event α)) : Inlet α := events.foldl feed i

theorem index_feed (i : Inlet α) (e : FanIn.Event α) : (i.feed e).index = i.index := by
  unfold feed push finish
  cases e <;> grind

theorem fed_concat (i : Inlet α) (events : List (FanIn.Event α)) (e : FanIn.Event α) :
    i.fed (events ++ [e]) = (i.fed events).feed e := List.foldl_concat ..

theorem index_fed (i : Inlet α) (events : List (FanIn.Event α)) :
    (i.fed events).index = i.index := by
  induction events using List.reverseRecOn with
  | nil => rfl
  | append_singleton events e ih => rw [fed_concat, index_feed, ih]

theorem waiting_feed {i j : Inlet α} (hindex : i.index = j.index) (hended : j.ended = i.ended)
    {past : List α} (hwaiting : past ++ j.waiting = i.waiting) (e : FanIn.Event α) :
    (j.feed e).ended = (i.feed e).ended ∧ past ++ (j.feed e).waiting = (i.feed e).waiting := by
  cases e with
  | push index a =>
    simp only [feed, push, hindex, hended]
    split
    · split
      · exact ⟨hended, hwaiting⟩
      · exact ⟨rfl, by rw [← hwaiting, List.append_assoc]⟩
    · exact ⟨hended, hwaiting⟩
  | finish index =>
    simp only [feed, finish, hindex]
    split
    · exact ⟨rfl, hwaiting⟩
    · exact ⟨hended, hwaiting⟩
  | stop => exact ⟨hended, hwaiting⟩
  | ask choice => exact ⟨hended, hwaiting⟩

theorem feed_of_ended {i : Inlet α} (h : i.ended = true) (e : FanIn.Event α) : i.feed e = i := by
  obtain ⟨index, waiting, ended⟩ := i
  cases h
  cases e <;> simp [feed, push, finish]

end Inlet

namespace FanIn

variable {α : Type}

def inlet? (f : FanIn α) (index : Nat) : Option (Inlet α) := f.inlets.find? (·.index = index)

def itemsOf (index : Nat) (answers : List (Option (Nat × α))) : List α :=
  (answers.reduceOption.filter (·.1 = index)).map (·.2)

def Event.isAsk : Event α → Bool
  | .ask _ => true
  | _ => false

/-- What the reader is given is a merge: the items of each inlet come in their order, with the index
of the inlet, and the word that there are to be no more comes after all of them unless there has been
a stop. -/
structure IsMerge (inlets : List (Inlet α)) (events : List (Event α))
    (answers : List (Option (Nat × α))) : Prop where
  tagged : ∀ item ∈ answers.reduceOption, ∃ i ∈ inlets, i.index = item.1
  in_order : ∀ i ∈ inlets, itemsOf i.index answers <+: (i.fed events).waiting
  complete : none ∈ answers → .stop ∉ events → ∀ i ∈ inlets,
    (i.fed events).ended = true ∧ itemsOf i.index answers = (i.fed events).waiting

section

variable {f g : FanIn α} {inlets : List (Inlet α)}

theorem inlet?_modify (k : Nat) {u : Inlet α → Inlet α} (hu : ∀ i, (u i).index = i.index)
    (index : Nat) : (f.modify k u).inlet? index =
      (f.inlet? index).map fun i => if i.index = k then u i else i := by
  have hindex : ∀ i : Inlet α, (if i.index = k then u i else i).index = i.index := by
    intro i
    split
    · exact hu i
    · rfl
  rw [inlet?, modify, List.find?_map]
  simp only [Function.comp_def, hindex]
  rfl

theorem inlet?_apply {e : Event α} (he : e.isAsk = false) (index : Nat) :
    (f.apply e).inlet? index = (f.inlet? index).map (·.feed e) := by
  cases e with
  | push k a =>
    apply inlet?_modify
    intro i
    unfold Inlet.push
    split <;> rfl
  | finish k => exact inlet?_modify k (u := .finish) (fun _ => rfl) index
  | stop => exact Option.map_id'.symm
  | ask choice => cases he

theorem stopped_apply {e : Event α} (he : e.isAsk = false) (hstop : e ≠ .stop) :
    (f.apply e).stopped = f.stopped := by
  cases e with
  | push k a => rfl
  | finish k => rfl
  | stop => exact absurd rfl hstop
  | ask choice => cases he

theorem takeFrom_eq_some {k : Nat} {a : α} {l r : List (Inlet α)}
    (h : takeFrom k l = some (a, r)) :
    ∃ j rest, l.find? (·.index = k) = some j ∧ j.waiting = a :: rest ∧
      ∀ index, r.find? (·.index = index) =
        if k = index then some { j with waiting := rest } else l.find? (·.index = index) := by
  induction l generalizing r with
  | nil => cases h
  | cons i l ih =>
    rw [takeFrom] at h
    split at h
    case isTrue hk =>
      subst hk
      split at h <;> cases h
      case h_2 rest hwaiting =>
        refine ⟨i, rest, by simp, hwaiting, fun index => ?_⟩
        by_cases hi : i.index = index <;> simp [hi]
    case isFalse hk =>
      obtain ⟨⟨a', r'⟩, hr, heq⟩ := Option.map_eq_some_iff.mp h
      cases heq
      obtain ⟨j, rest, hfind, hwaiting, hafter⟩ := ih hr
      refine ⟨j, rest, by simpa [hk] using hfind, hwaiting, fun index => ?_⟩
      by_cases hi : i.index = index
      · subst hi
        rw [if_neg (Ne.symm hk)]
        simp
      · simpa [hi] using hafter index

theorem exists_takeFrom {k : Nat} {a : α} {rest : List α} {j : Inlet α} {l : List (Inlet α)}
    (hfind : l.find? (·.index = k) = some j) (hwaiting : j.waiting = a :: rest) :
    ∃ r, takeFrom k l = some (a, r) := by
  induction l with
  | nil => cases hfind
  | cons i l ih =>
    rw [takeFrom]
    by_cases hk : i.index = k
    · rw [List.find?_cons_of_pos (by simpa using hk)] at hfind
      cases hfind
      rw [if_pos hk, hwaiting]
      exact ⟨_, rfl⟩
    · rw [List.find?_cons_of_neg (by simpa using hk)] at hfind
      obtain ⟨r, hr⟩ := ih hfind
      rw [if_neg hk, hr]
      exact ⟨_, rfl⟩

theorem answer?_eq_some {choice : Option Nat} {answer : Option (Nat × α)}
    (h : f.answer? choice = some (answer, g)) :
    answer = none ∧ g = f ∧ f.isOver = true ∨
    ∃ k a j rest, answer = some (k, a) ∧ f.inlet? k = some j ∧ j.waiting = a :: rest ∧
      g.stopped = f.stopped ∧ ∀ index, g.inlet? index =
        if k = index then some { j with waiting := rest } else f.inlet? index := by
  cases choice with
  | none =>
    by_cases hover : f.isOver = true
    · rw [answer?, if_pos hover] at h
      cases h
      exact .inl ⟨rfl, rfl, hover⟩
    · rw [answer?, if_neg hover] at h
      cases h
  | some k =>
    obtain ⟨⟨a, l⟩, htake, heq⟩ := Option.map_eq_some_iff.mp h
    cases heq
    obtain ⟨j, rest, hfind, hwaiting, hafter⟩ := takeFrom_eq_some htake
    exact .inr ⟨k, a, j, rest, rfl, hfind, hwaiting, rfl, hafter⟩

theorem index_of_inlet? {index : Nat} {j : Inlet α} (hj : f.inlet? index = some j) :
    j.index = index := by
  unfold inlet? at hj
  simpa using List.find?_some hj

theorem isOver_of_inlet? (hover : f.isOver = true) (hstopped : f.stopped = false) {index : Nat}
    {j : Inlet α} (hj : f.inlet? index = some j) : j.isOver = true := by
  rw [isOver, hstopped, Bool.false_or] at hover
  exact List.all_eq_true.mp hover j (List.mem_of_find?_eq_some hj)

theorem inlet?_add (i : Inlet α) (index : Nat) :
    (f.add i).inlet? index = if i.index = index then some i else f.inlet? index := by
  rw [inlet?, add, List.find?_append]
  by_cases hi : i.index = index
  · have hnone : (f.inlets.filter (·.index ≠ i.index)).find? (·.index = index) = none := by
      rw [List.find?_eq_none]
      grind
    rw [hnone]
    simp [hi]
  · have hsame : (f.inlets.filter (·.index ≠ i.index)).find? (·.index = index) =
        f.inlets.find? (·.index = index) := by
      rw [List.find?_filter]
      congr 1
      funext j
      grind
    rw [hsame]
    simp [hi, inlet?]

theorem ofList_concat (i : Inlet α) : ofList (inlets ++ [i]) = (ofList inlets).add i :=
  List.foldl_concat ..

theorem inlet?_ofList (hnodup : (inlets.map (·.index)).Nodup) {i : Inlet α} (hi : i ∈ inlets) :
    (ofList inlets).inlet? i.index = some i := by
  induction inlets using List.reverseRecOn with
  | nil => cases hi
  | append_singleton inlets b ih =>
    rw [List.map_append, List.nodup_append] at hnodup
    rw [ofList_concat, inlet?_add]
    rcases List.mem_append.mp hi with hi | hi
    · have hne : b.index ≠ i.index := fun h =>
        hnodup.2.2 _ (List.mem_map_of_mem hi) b.index (by simp) h.symm
      rw [if_neg hne, ih hnodup.1 hi]
    · rw [List.mem_singleton.mp hi, if_pos rfl]

theorem exists_of_inlet?_ofList {index : Nat} {j : Inlet α}
    (h : (ofList inlets).inlet? index = some j) : ∃ i ∈ inlets, i.index = index := by
  induction inlets using List.reverseRecOn with
  | nil => cases h
  | append_singleton inlets b ih =>
    rw [ofList_concat, inlet?_add] at h
    split at h
    case isTrue hb => exact ⟨b, by simp, hb⟩
    case isFalse hb =>
      obtain ⟨i, hi, hindex⟩ := ih h
      exact ⟨i, List.mem_append_left _ hi, hindex⟩

theorem stopped_ofList : (ofList inlets).stopped = false := by
  induction inlets using List.reverseRecOn with
  | nil => rfl
  | append_singleton inlets b ih => rw [ofList_concat, add, ih]

end

structure Drawn (i : Inlet α) (f : FanIn α) (events : List (Event α))
    (answers : List (Option (Nat × α))) : Prop where
  left : ∃ j, f.inlet? i.index = some j ∧ j.ended = (i.fed events).ended ∧
    itemsOf i.index answers ++ j.waiting = (i.fed events).waiting
  complete : none ∈ answers → .stop ∉ events →
    (i.fed events).ended = true ∧ itemsOf i.index answers = (i.fed events).waiting

/-- What is known of all inlets and the reader. -/
structure Merges (inlets : List (Inlet α)) (f : FanIn α) (events : List (Event α))
    (answers : List (Option (Nat × α))) : Prop where
  drawn : ∀ i ∈ inlets, Drawn i f events answers
  known : ∀ index j, f.inlet? index = some j → ∃ i ∈ inlets, i.index = index
  tagged : ∀ item ∈ answers.reduceOption, ∃ i ∈ inlets, i.index = item.1
  stopped : .stop ∉ events → f.stopped = false

section

variable {f g : FanIn α} {inlets : List (Inlet α)} {i : Inlet α} {events : List (Event α)}
  {answers : List (Option (Nat × α))}

theorem itemsOf_concat (index : Nat) (answer : Option (Nat × α)) :
    itemsOf index (answers ++ [answer]) =
      itemsOf index answers ++ itemsOf index [answer] := by
  rw [itemsOf, List.reduceOption_append, List.filter_append, List.map_append]
  rfl

theorem merges_ofList (hnodup : (inlets.map (·.index)).Nodup) :
    Merges inlets (ofList inlets) [] [] where
  drawn := fun i hi =>
    { left := ⟨i, inlet?_ofList hnodup hi, rfl, rfl⟩
      complete := fun hnone => by cases hnone }
  known := fun _ _ hj => exists_of_inlet?_ofList hj
  tagged := fun _ hitem => by cases hitem
  stopped := fun _ => stopped_ofList

theorem Drawn.apply (h : Drawn i f events answers) {e : Event α} (he : e.isAsk = false) :
    Drawn i (f.apply e) (events ++ [e]) answers where
  left := by
    obtain ⟨j, hj, hended, hwaiting⟩ := h.left
    have hindex : (i.fed events).index = j.index := by
      rw [Inlet.index_fed, index_of_inlet? hj]
    refine ⟨j.feed e, by rw [inlet?_apply he, hj, Option.map_some], ?_⟩
    rw [Inlet.fed_concat]
    exact Inlet.waiting_feed hindex hended hwaiting e
  complete := by
    intro hnone hstop
    obtain ⟨hended, hgiven⟩ := h.complete hnone fun hmem => hstop (List.mem_append_left _ hmem)
    rw [Inlet.fed_concat, Inlet.feed_of_ended hended]
    exact ⟨hended, hgiven⟩

theorem Merges.apply (h : Merges inlets f events answers) {e : Event α} (he : e.isAsk = false) :
    Merges inlets (f.apply e) (events ++ [e]) answers where
  drawn := fun i hi => (h.drawn i hi).apply he
  known := by
    intro index j hj
    rw [inlet?_apply he] at hj
    obtain ⟨j', hj', -⟩ := Option.map_eq_some_iff.mp hj
    exact h.known index j' hj'
  tagged := h.tagged
  stopped := by
    intro hstop
    rw [List.mem_append, not_or, List.mem_singleton] at hstop
    rw [stopped_apply he (Ne.symm hstop.2)]
    exact h.stopped hstop.1

theorem Merges.ask (h : Merges inlets f events answers) (choice : Option Nat) :
    Merges inlets f (events ++ [.ask choice]) answers where
  drawn := fun i hi =>
    { left := by
        rw [Inlet.fed_concat]
        exact (h.drawn i hi).left
      complete := by
        intro hnone hstop
        rw [Inlet.fed_concat]
        exact (h.drawn i hi).complete hnone fun hmem => hstop (List.mem_append_left _ hmem) }
  known := h.known
  tagged := h.tagged
  stopped := fun hstop => h.stopped fun hmem => hstop (List.mem_append_left _ hmem)

theorem Merges.close (h : Merges inlets f events answers) (hover : f.isOver = true) :
    Merges inlets f events (answers ++ [none]) where
  drawn := by
    intro i hi
    have hsame : itemsOf i.index (answers ++ [none]) = itemsOf i.index answers := by
      rw [itemsOf_concat]
      exact List.append_nil _
    obtain ⟨j, hj, hended, hwaiting⟩ := (h.drawn i hi).left
    refine ⟨⟨j, hj, hended, by rw [hsame, hwaiting]⟩, fun _ hstop => ?_⟩
    have hdone := isOver_of_inlet? hover (h.stopped hstop) hj
    obtain ⟨hjended, hempty⟩ := (Bool.and_eq_true _ _).mp hdone
    rw [List.isEmpty_iff.mp hempty, List.append_nil] at hwaiting
    exact ⟨hended.symm.trans hjended, hsame.trans hwaiting⟩
  known := h.known
  tagged := by
    intro item hitem
    rw [List.reduceOption_append, List.mem_append] at hitem
    exact h.tagged item (hitem.resolve_right (by simp))
  stopped := h.stopped

theorem Merges.take (h : Merges inlets f events answers) {k : Nat} {a : α} {j : Inlet α}
    {rest : List α} (hj : f.inlet? k = some j) (hwaiting : j.waiting = a :: rest)
    (hstopped : g.stopped = f.stopped) (hafter : ∀ index, g.inlet? index =
      if k = index then some { j with waiting := rest } else f.inlet? index) :
    Merges inlets g events (answers ++ [some (k, a)]) where
  drawn := by
    intro i hi
    obtain ⟨j', hj', hended, hsplit⟩ := (h.drawn i hi).left
    have hover : none ∈ answers ++ [some (k, a)] → none ∈ answers := by simp
    by_cases hk : k = i.index
    · have hitem : itemsOf i.index [some (k, a)] = [a] := by simp [itemsOf, hk]
      rw [← hk, hj] at hj'
      cases hj'
      rw [hwaiting] at hsplit
      refine ⟨⟨{ j with waiting := rest }, by rw [hafter, if_pos hk], hended, ?_⟩, ?_⟩
      · rw [itemsOf_concat, hitem, List.append_assoc, List.singleton_append, hsplit]
      · -- Nothing is left in the inlet once the reader has been told so.
        intro hnone hstop
        have hgiven := ((h.drawn i hi).complete (hover hnone) hstop).2
        rw [hgiven] at hsplit
        cases List.append_cancel_left (hsplit.trans (List.append_nil _).symm)
    · have hitem : itemsOf i.index [some (k, a)] = [] := by simp [itemsOf, hk]
      refine ⟨⟨j', by rw [hafter, if_neg hk, hj'], hended, ?_⟩, ?_⟩
      · rw [itemsOf_concat, hitem, List.append_nil, hsplit]
      · rw [itemsOf_concat, hitem, List.append_nil]
        exact fun hnone => (h.drawn i hi).complete (hover hnone)
  known := by
    intro index j' hj'
    rw [hafter] at hj'
    split at hj'
    case isTrue hk => exact h.known index j (hk ▸ hj)
    case isFalse => exact h.known index j' hj'
  tagged := by
    intro item hitem
    rw [List.reduceOption_append, List.mem_append] at hitem
    rcases hitem with hitem | hitem
    · exact h.tagged item hitem
    · obtain rfl : item = (k, a) := by simpa using hitem
      exact h.known k j hj
  stopped := fun hstop => hstopped.trans (h.stopped hstop)

theorem Merges.answer (h : Merges inlets f events answers) {choice : Option Nat}
    {answer : Option (Nat × α)} (hanswer : f.answer? choice = some (answer, g)) :
    Merges inlets g (events ++ [.ask choice]) (answers ++ [answer]) := by
  obtain ⟨rfl, rfl, hover⟩ | ⟨k, a, j, rest, rfl, hj, hwaiting, hstopped, hafter⟩ :=
    answer?_eq_some hanswer
  · exact (h.ask choice).close hover
  · exact (h.ask choice).take hj hwaiting hstopped hafter

theorem Merges.isMerge (h : Merges inlets f events answers) : IsMerge inlets events answers where
  tagged := h.tagged
  in_order := by
    intro i hi
    obtain ⟨j, -, -, hwaiting⟩ := (h.drawn i hi).left
    exact ⟨j.waiting, hwaiting⟩
  complete := fun hnone hstop i hi => (h.drawn i hi).complete hnone hstop

theorem run_concat (events : List (Event α)) (e : Event α) :
    f.run (events ++ [e]) = (f.run events).apply e := List.foldl_concat ..

theorem answers_concat (events : List (Event α)) (e : Event α) :
    f.answers (events ++ [e]) = f.answers events ++ ((f.run events).answered? e).toList :=
  outputs_concat ..

theorem Merges.step (h : Merges inlets f events answers) (e : Event α) :
    Merges inlets (f.apply e) (events ++ [e]) (answers ++ (f.answered? e).toList) := by
  cases e with
  | ask choice =>
    cases hanswer : f.answer? choice with
    | none =>
      simp only [FanIn.apply, answered?, hanswer, Option.map_none, Option.getD_none,
        Option.toList_none, List.append_nil]
      exact h.ask choice
    | some p =>
      simp only [FanIn.apply, answered?, hanswer, Option.map_some, Option.getD_some,
        Option.toList_some]
      exact h.answer hanswer
  | _ =>
    simp only [answered?, Option.toList_none, List.append_nil]
    exact h.apply rfl

theorem merges_run (hnodup : (inlets.map (·.index)).Nodup) (events : List (Event α)) :
    Merges inlets ((ofList inlets).run events) events ((ofList inlets).answers events) := by
  induction events using List.reverseRecOn with
  | nil => exact merges_ofList hnodup
  | append_singleton events e ih =>
    rw [run_concat, answers_concat]
    exact ih.step e

theorem next?_eq_some {k : Nat} {a : α} (h : f.next? = some (k, a, g)) :
    f.answer? (some k) = some (some (k, a), g) := by
  simp only [next?, bind, pure, Option.bind_eq_some_iff, Option.some.injEq, Prod.mk.injEq] at h
  obtain ⟨index, -, ⟨b, g'⟩, htake, rfl, rfl, rfl⟩ := h
  unfold take? at htake
  split at htake
  · cases htake
  · obtain ⟨⟨b, l⟩, hfrom, heq⟩ := Option.map_eq_some_iff.mp htake
    cases heq
    rw [answer?, hfrom]
    rfl

theorem exists_run_takeUpTo (f : FanIn α) (n : Nat) : ∃ events : List (Event α),
    f.run events = (takeUpTo n f).2 ∧ f.answers events = (takeUpTo n f).1.map some := by
  induction n generalizing f with
  | zero => exact ⟨[], rfl, rfl⟩
  | succ n ih =>
    cases hnext : f.next? with
    | none => exact ⟨[], by simp [takeUpTo, hnext, run], by simp [takeUpTo, hnext, answers, outputs]⟩
    | some p =>
      obtain ⟨k, a, g⟩ := p
      obtain ⟨events, hrun, hanswers⟩ := ih g
      have happly : f.apply (.ask (some k)) = g := by rw [FanIn.apply, next?_eq_some hnext]; rfl
      have hgiven : f.answered? (.ask (some k)) = some (some (k, a)) := by
        rw [answered?, next?_eq_some hnext]
        rfl
      refine ⟨.ask (some k) :: events, ?_, ?_⟩
      · simp only [takeUpTo, hnext]
        rw [← hrun, ← happly]
        rfl
      · simp only [takeUpTo, hnext, List.map_cons]
        rw [← hanswers, ← happly, answers, outputs, hgiven]
        rfl

end

end FanIn

end ScrapeBridge
