import PlainReport.Text.Basic

/-!
# Finding a word

A text is cut at the last place where a given word stands.
-/

namespace PlainReport.Text

/-- The text before the last occurrence of a word and the text after it. -/
def cutLast? (word : Text) : Text → Option (Text × Text)
  | [] => none
  | c :: t =>
    match cutLast? word t with
    | some (before, after) => some (c :: before, after)
    | none => if word.isPrefixOf (c :: t) then some ([], (c :: t).drop word.length) else none

theorem cutLast?_eq {word t before after : Text} (h : cutLast? word t = some (before, after)) :
    t = before ++ word ++ after := by
  induction t generalizing before with
  | nil => simp [cutLast?] at h
  | cons c t ih =>
    unfold cutLast? at h
    split at h
    · rename_i b a hb
      obtain ⟨rfl, rfl⟩ := Prod.mk.inj (Option.some.inj h)
      simp [ih hb]
    · split at h
      · rename_i hp
        obtain ⟨rfl, rfl⟩ := Prod.mk.inj (Option.some.inj h)
        obtain ⟨rest, hr⟩ := List.isPrefixOf_iff_prefix.1 hp
        simp [← hr]
      · simp at h

end PlainReport.Text
