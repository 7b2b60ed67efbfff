import PlainReport.Pattern.TablePattern
import PlainReport.Proofs.Text.Parts
import PlainReport.Proofs.Text.Trimming

/-!
# Definitions one after the other

A definition is solid at both ends and has neither a semicolon nor a number sign in
it.  Definitions written with a semicolon and a space between each two are cut apart
again, up to the spaces, as the definitions they were (`map_trim_definitions`).

A definition is often made of parts one after the other.  When no text has two such
decompositions, reading accepts the texts that have one and gives what the parts make
(`read_iff_of_parts`).
-/

namespace PlainReport

namespace Text

/-- Cutting at a separator leaves the space that was joined after it. -/
theorem pieces_join_spaced {sep : Char} {t : Text} {ts : List Text} (ht : sep ∉ t)
    (hts : ∀ u ∈ ts, sep ∉ u) (hsep : sep ≠ ' ') :
    pieces sep (join [sep, ' '] (t :: ts)) = t :: ts.map (' ' :: ·) := by
  induction ts generalizing t with
  | nil => exact pieces_of_not_mem ht
  | cons u us ih =>
    have hu : sep ∉ u := hts u List.mem_cons_self
    have hrest := ih hu fun v hv => hts v (List.mem_cons_of_mem u hv)
    obtain ⟨p, ps, hp, hcons⟩ := pieces_cons_of_ne hsep.symm (join [sep, ' '] (u :: us))
    have hjoin : join [sep, ' '] (t :: u :: us) = t ++ sep :: ' ' :: join [sep, ' '] (u :: us) := by
      simp [join]
    rw [hrest] at hp
    cases hp
    rw [hjoin, pieces_append_cons ht, hcons, List.map_cons]

end Text

/-! ## Definitions -/

/-- A text that is not cut where definitions are. -/
structure IsDefinition (t : Text) : Prop where
  /-- It begins with no blank. -/
  begins : Text.BeginsSolid t
  /-- It ends in no blank. -/
  ends : Text.EndsSolid t
  /-- It has no semicolon. -/
  semicolon : ';' ∉ t
  /-- It has no number sign. -/
  numberSign : '#' ∉ t

theorem IsDefinition.trim_eq {t : Text} (h : IsDefinition t) : Text.trim t = t :=
  Text.trim_of_solid h.begins h.ends

/-- If a text that has parts is read as what they make, and a text that is read has parts,
then it is read if and only if it has parts, which are the only ones. -/
theorem read_iff_of_parts {π α ε : Type} {text : π → Text} {value : π → α} {t : Text}
    {read : Except ε α} (hinjective : Function.Injective text)
    (hread : ∀ p, text p = t → read = .ok (value p))
    (hparts : ∀ a, read = .ok a → ∃ p, text p = t) :
    ((∃ a, read = .ok a) ↔ ∃! p, text p = t) ∧
      ∀ a, read = .ok a ↔ ∃ p, text p = t ∧ value p = a := by
  refine ⟨⟨fun h => ?_, fun h => ?_⟩, fun a => ⟨fun h => ?_, fun h => ?_⟩⟩
  · obtain ⟨a, ha⟩ := h
    obtain ⟨p, hp⟩ := hparts a ha
    exact ⟨p, hp, fun q hq => hinjective (hq.trans hp.symm)⟩
  · obtain ⟨p, hp, -⟩ := h
    exact ⟨value p, hread p hp⟩
  · obtain ⟨p, hp⟩ := hparts a h
    exact ⟨p, hp, Except.ok.inj ((hread p hp).symm.trans h)⟩
  · obtain ⟨p, hp, rfl⟩ := h
    exact hread p hp

namespace TablePattern

theorem trim_join_definitions {ts : List Text} (h : ∀ t ∈ ts, IsDefinition t) :
    Text.trim (Text.join "; " ts) = Text.join "; " ts := by
  cases ts with
  | nil => rfl
  | cons t ts =>
    have hbegin : Text.BeginsSolid (Text.join "; " (t :: ts)) :=
      Text.beginsSolid_join (h t List.mem_cons_self).begins ts
    have hend : Text.EndsSolid (Text.join "; " (t :: ts)) :=
      Text.endsSolid_join (List.cons_ne_nil t ts) fun u hu => (h u hu).ends
    exact Text.trim_of_solid hbegin hend

theorem numberSign_not_mem_join {ts : List Text} (h : ∀ t ∈ ts, IsDefinition t) :
    '#' ∉ Text.join "; " ts :=
  Text.not_mem_join (by decide) fun t ht => (h t ht).numberSign

/-- The definitions in the value of a field are those it was written from. -/
theorem map_trim_definitions {ts : List Text} (h : ∀ t ∈ ts, IsDefinition t) :
    (definitions (Text.trim (' ' :: Text.join "; " ts))).map Text.trim = ts := by
  cases ts with
  | nil => rfl
  | cons t ts =>
    have ht : IsDefinition t := h t List.mem_cons_self
    have hts : ∀ u ∈ ts, IsDefinition u := fun u hu => h u (List.mem_cons_of_mem t hu)
    have hpieces : Text.pieces ';' (Text.join "; " (t :: ts)) = t :: ts.map (' ' :: ·) :=
      Text.pieces_join_spaced ht.semicolon (fun u hu => (hts u hu).semicolon) (by decide)
    have hkeep : ∀ d ∈ t :: ts.map (' ' :: ·), (!Text.isAllBlank d) = true := by
      intro d hd
      rw [Bool.not_eq_true']
      cases List.mem_cons.1 hd with
      | inl he => exact he ▸ Text.isAllBlank_of_beginsSolid ht.begins []
      | inr hm =>
        obtain ⟨u, hu, rfl⟩ := List.mem_map.1 hm
        exact Text.isAllBlank_of_beginsSolid (hts u hu).begins [' ']
    rw [Text.trim_space, trim_join_definitions h, definitions, hpieces, List.filter_eq_self.2 hkeep,
      List.map_cons, List.map_map, ht.trim_eq]
    have hspaces : ts.map (Text.trim ∘ (' ' :: ·)) = ts.map id :=
      List.map_congr_left fun u hu => (Text.trim_space u).trans (hts u hu).trim_eq
    rw [hspaces, List.map_id]

end TablePattern

end PlainReport
