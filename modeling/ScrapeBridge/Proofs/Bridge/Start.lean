import ScrapeBridge.Proofs.Bridge.Sound

namespace ScrapeBridge.Bridge

variable {route : Nat → SourceConfig → Except String Route}

theorem startConnections_adds {sources : List SourceConfig} {index : Nat} {b b' : Bridge}
    {e : Option BridgeError} (hstart : startConnections route index b sources = (b', e)) :
    ∃ added, b' = { b with connections := b.connections ++ added } ∧
      (∀ c ∈ added, c.Kept ∧ c.consumed = []) ∧
      (e = none → b.config.connections.drop index = sources → added.length = sources.length) := by
  have hnothing : ∀ b : Bridge, b = { b with connections := b.connections ++ [] } := by
    intro b
    rw [List.append_nil]
  -- The index goes up as the list gets shorter: what is left is the configuration from there on.
  induction sources generalizing index b with
  | nil =>
    cases hstart
    exact ⟨[], hnothing _, by simp, fun _ _ => rfl⟩
  | cons s sources ih =>
    rw [startConnections] at hstart
    split at hstart
    case h_1 hnone =>
      cases hstart
      refine ⟨[], hnothing _, by simp, fun _ hdrop => ?_⟩
      have hs : b'.config.connections[index]? = some s := by
        rw [← List.head?_drop, hdrop, List.head?_cons]
      rw [Config.connection?, hs] at hnone
      cases hnone
    case h_2 =>
      cases hstart
      exact ⟨[], hnothing _, by simp, fun he => by cases he⟩
    case h_3 settings r hsettings hroute =>
      split at hstart
      case h_1 =>
        cases hstart
        exact ⟨[], hnothing _, by simp, fun he => by cases he⟩
      case h_2 c hc =>
        obtain ⟨added, rfl, hadded, hlength⟩ := ih hstart
        refine ⟨c :: added, by simp, ?_, ?_⟩
        · intro d hd
          rcases List.mem_cons.mp hd with rfl | hd
          · exact Connection.kept_start hc
          · exact hadded d hd
        · intro he hdrop
          have hrest : b.config.connections.drop (index + 1) = sources := by
            rw [← List.tail_drop, hdrop, List.tail_cons]
          rw [List.length_cons, List.length_cons, hlength he hrest]

theorem sound_start {config : Config} {b : Bridge} (hstart : start config route = (b, none)) :
    b.Sound config := by
  unfold start at hstart
  split at hstart
  case h_1 => cases hstart
  case h_2 listening hlistening =>
    dsimp only at hstart
    split at hstart
    case h_1 => cases hstart
    case h_2 b' hconnections =>
      obtain ⟨added, rfl, hadded, hlength⟩ := startConnections_adds hconnections
      cases hstart
      obtain ⟨hledger, hidle⟩ := (Dispatcher.ledger_start config.timeToLive.seconds).registerAll rfl
        (added.map origin)
      refine ⟨rfl, hlength rfl rfl, fun c hc => (hadded c hc).1, hledger, ?_, ?_, ?_⟩
      · intro g hg
        cases hg
      · intro i c hc
        exact (hadded c (List.mem_of_getElem? hc)).2.symm
      · intro hstopped
        have hclash := hidle.symm.trans (Dispatcher.task_of_isStopped hstopped)
        cases hclash

end ScrapeBridge.Bridge
