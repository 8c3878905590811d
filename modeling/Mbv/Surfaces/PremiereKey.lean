import Mbv.Sequence.Framed

namespace Mbv.Surfaces

/-- An announced episode, as the Upcoming rows show it. -/
structure UpcomingPremiere where
  seriesId : String
  seriesName : String
  season : Option UInt32
  episode : Option UInt32
  title : String
  premiereDate : String

def number (n : Option UInt32) : String := n.elim "-" fun n => n.toNat.repr

def UpcomingPremiere.stableKey (premiere : UpcomingPremiere) : String :=
  "upcoming:" ++ (Framed.frame premiere.seriesId ++ (":" ++ (number premiere.season ++ (":" ++
    (number premiere.episode ++ (":" ++ (Framed.frame premiere.title ++ (":" ++
      (Framed.frame premiere.premiereDate ++ (":" ++ premiere.seriesName))))))))))

theorem colon_notMem_number (n : Option UInt32) : ':' ∉ (number n).toList := by
  cases n with
  | none => decide
  | some n => exact Framed.notMem_repr rfl n.toNat

theorem number_injective {one other : Option UInt32} (same : number one = number other) : one = other := by
  have written (n : UInt32) : n.toNat.repr ≠ "-" := by
    intro dash
    have member : '-' ∈ n.toNat.repr.toList := by
      rw [dash]
      decide
    exact Framed.notMem_repr rfl n.toNat member
  cases one with
  | none =>
    cases other with
    | none => rfl
    | some n => exact absurd same.symm (written n)
  | some m =>
    cases other with
    | none => exact absurd same (written m)
    | some n => exact congrArg some (UInt32.toNat_inj.mp (Framed.repr_injective same))

/-- A number ends where its colon stands, since it has none itself. -/
theorem number_append_inj {one other : Option UInt32} {rest rest' : String}
    (same : number one ++ (":" ++ rest) = number other ++ (":" ++ rest')) :
    one = other ∧ rest = rest' := by
  have chars := congrArg String.toList same
  simp only [String.toList_append] at chars
  obtain ⟨numbers, after⟩ := Delimited.record_unique (colon_notMem_number one) (colon_notMem_number other) chars
  exact ⟨number_injective (String.toList_injective numbers), String.toList_injective after⟩

theorem field_append_inj {one other rest rest' : String}
    (same : Framed.frame one ++ (":" ++ rest) = Framed.frame other ++ (":" ++ rest')) :
    one = other ∧ rest = rest' := by
  obtain ⟨field, after⟩ := Framed.frame_append_inj same
  exact ⟨field, (String.append_right_inj ":").mp after⟩

theorem stableKey_injective : Function.Injective UpcomingPremiere.stableKey := by
  rintro ⟨seriesId, seriesName, season, episode, title, date⟩
    ⟨seriesId', seriesName', season', episode', title', date'⟩ same
  obtain ⟨rfl, same⟩ := field_append_inj ((String.append_right_inj "upcoming:").mp same)
  obtain ⟨rfl, same⟩ := number_append_inj same
  obtain ⟨rfl, same⟩ := number_append_inj same
  obtain ⟨rfl, same⟩ := field_append_inj same
  obtain ⟨rfl, rfl⟩ := field_append_inj same
  rfl

/-- A title may hold what reads as the fields behind it. -/
example : UpcomingPremiere.stableKey ⟨"7", "Dark", some 1, none, "a:1:b", "2020"⟩ =
    "upcoming:1:7:1:-:5:a:1:b:4:2020:Dark" := by decide

end Mbv.Surfaces
