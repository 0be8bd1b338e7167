import StudyGraph.Json

/-!
# The text of a JSON value

`Json.render` loses nothing. The escape of a character can be read back (`unescape?_escape`), and no
escape starts with a quotation mark, so a quoted string ends where it seems to end
(`quote_append_inj`). The first character of a value's text tells the kind of the value
(`opening`), and a list of items or members goes on with a comma or stops with its bracket. Put
together, a text that starts with the text of a value starts with that of no other value, and the
rest behind it is determined (`render_append_inj`). With an empty rest this is injectivity
(`render_injective`).
-/

namespace StudyGraph.Json

/-! ## Escapes -/

/-- The number of a hexadecimal digit in lower case. -/
def hexValue (c : Char) : Nat :=
  if c.toNat < 58 then c.toNat - 48 else c.toNat - 87

/-- The characters with a short escape, by the letter of the escape. -/
def shortEscapes : List (Char × Char) :=
  [('"', '"'), ('\\', '\\'), ('b', '\x08'), ('t', '\t'), ('n', '\n'), ('f', '\x0c'), ('r', '\r')]

/-- The character whose escape a text starts with, and the text behind it. A quotation mark is
no escape. -/
def unescape? : Text → Option (Char × Text)
  | '\\' :: 'u' :: _ :: _ :: h :: l :: t => some (Char.ofNat (16 * hexValue h + hexValue l), t)
  | '\\' :: letter :: t => (shortEscapes.lookup letter).map (·, t)
  | '"' :: _ => none
  | [] => none
  | c :: t => some (c, t)

theorem hexValue_hexDigit : ∀ n < 16, hexValue (hexDigit n) = n := by decide

/-- The escape of a character is read back, whatever follows it. -/
theorem unescape?_escape (c : Char) (t : Text) : unescape? (escape c ++ t) = some (c, t) := by
  unfold escape
  split
  · next h => subst h; rfl
  split
  · next h => subst h; rfl
  split
  · next h => subst h; rfl
  split
  · next h => subst h; rfl
  split
  · next h => subst h; rfl
  split
  · next h => subst h; rfl
  split
  · next h => subst h; rfl
  split
  · next hc =>
    have hh := hexValue_hexDigit (c.toNat / 16) (by omega)
    have hl := hexValue_hexDigit (c.toNat % 16) (by omega)
    have hn : 16 * (c.toNat / 16) + c.toNat % 16 = c.toNat := Nat.div_add_mod c.toNat 16
    simp [unescape?, hh, hl, hn]
  · next _ hb _ _ _ _ _ _ => simp [unescape?, hb]

theorem escape_append_inj {c d : Char} {s t : Text} (h : escape c ++ s = escape d ++ t) :
    c = d ∧ s = t := by
  have hread := congrArg unescape? h
  rw [unescape?_escape, unescape?_escape] at hread
  simpa using hread

theorem escape_append_ne_quote (c : Char) (s t : Text) : escape c ++ s ≠ '"' :: t := by
  intro h
  have hread := congrArg unescape? h
  rw [unescape?_escape] at hread
  simp [unescape?] at hread

/-! ## Strings -/

theorem flatMap_escape_append_inj : ∀ {a b s t : Text},
    a.flatMap escape ++ '"' :: s = b.flatMap escape ++ '"' :: t → a = b ∧ s = t
  | [], [], _, _, h => ⟨rfl, by simpa using h⟩
  | [], d :: b, s, t, h => by
    simp only [List.flatMap_nil, List.nil_append, List.flatMap_cons, List.append_assoc] at h
    exact absurd h.symm (escape_append_ne_quote d _ s)
  | c :: a, [], s, t, h => by
    simp only [List.flatMap_nil, List.nil_append, List.flatMap_cons, List.append_assoc] at h
    exact absurd h (escape_append_ne_quote c _ t)
  | c :: a, d :: b, s, t, h => by
    simp only [List.flatMap_cons, List.append_assoc] at h
    obtain ⟨rfl, hrest⟩ := escape_append_inj h
    obtain ⟨rfl, hst⟩ := flatMap_escape_append_inj hrest
    exact ⟨rfl, hst⟩

/-- A quoted string tells the string, and where it ends. -/
theorem quote_append_inj {a b s t : Text} (h : quote a ++ s = quote b ++ t) : a = b ∧ s = t := by
  simp only [quote, List.cons_append, List.append_assoc, List.nil_append, List.cons.injEq,
    true_and] at h
  exact flatMap_escape_append_inj h

/-! ## Values -/

/-- The character that the text of a value opens with. -/
def opening : Json → Char
  | null => 'n'
  | bool true => 't'
  | bool false => 'f'
  | string _ => '"'
  | array _ => '['
  | object _ => '\x7b'

theorem render_eq_opening_cons (v : Json) : ∃ body, render v = opening v :: body := by
  cases v with
  | null => exact ⟨_, rfl⟩
  | bool b => cases b <;> exact ⟨_, rfl⟩
  | string t => exact ⟨_, rfl⟩
  | array items => cases items <;> exact ⟨_, rfl⟩
  | object members => cases members <;> exact ⟨_, rfl⟩

theorem opening_eq_of_render_append {v w : Json} {s t : Text}
    (h : render v ++ s = render w ++ t) : opening v = opening w := by
  obtain ⟨body, hv⟩ := render_eq_opening_cons v
  obtain ⟨body', hw⟩ := render_eq_opening_cons w
  rw [hv, hw] at h
  exact (List.cons.inj h).1

theorem render_append_ne_bracket (v : Json) (s t : Text) : render v ++ s ≠ ']' :: t := by
  obtain ⟨body, hv⟩ := render_eq_opening_cons v
  rw [hv, List.cons_append]
  intro h
  have ho : opening v = ']' := (List.cons.inj h).1
  cases v with
  | bool b => cases b <;> simp [opening] at ho
  | _ => simp [opening] at ho

mutual

/-- The text of a value tells the value, and where it ends. -/
theorem render_append_inj : ∀ {v w : Json} {s t : Text},
    render v ++ s = render w ++ t → v = w ∧ s = t
  | null, w, s, t, h => by
    have ho := opening_eq_of_render_append h
    cases w with
    | null => exact ⟨rfl, List.append_cancel_left h⟩
    | bool b => cases b <;> simp [opening] at ho
    | _ => simp [opening] at ho
  | bool a, w, s, t, h => by
    have ho := opening_eq_of_render_append h
    cases w with
    | bool b =>
      obtain rfl : a = b := by cases a <;> cases b <;> simp_all [opening]
      exact ⟨rfl, List.append_cancel_left h⟩
    | _ => cases a <;> simp [opening] at ho
  | string a, w, s, t, h => by
    have ho := opening_eq_of_render_append h
    cases w with
    | string b =>
      obtain ⟨rfl, hst⟩ := quote_append_inj h
      exact ⟨rfl, hst⟩
    | bool b => cases b <;> simp [opening] at ho
    | _ => simp [opening] at ho
  | array vs, w, s, t, h => by
    have ho := opening_eq_of_render_append h
    cases w with
    | array ws =>
      match vs, ws with
      | [], [] => simpa [render] using h
      | [], w :: ws =>
        have hw : ']' :: s = render w ++ (renderItems ws ++ t) := by simpa [render] using h
        exact absurd hw.symm (render_append_ne_bracket w _ s)
      | v :: vs, [] =>
        have hv : render v ++ (renderItems vs ++ s) = ']' :: t := by simpa [render] using h
        exact absurd hv (render_append_ne_bracket v _ t)
      | v :: vs, w :: ws =>
        simp only [render, List.cons_append, List.append_assoc, List.cons.injEq, true_and] at h
        obtain ⟨rfl, hrest⟩ := render_append_inj h
        obtain ⟨rfl, hst⟩ := renderItems_append_inj hrest
        exact ⟨rfl, hst⟩
    | bool b => cases b <;> simp [opening] at ho
    | _ => simp [opening] at ho
  | object vs, w, s, t, h => by
    have ho := opening_eq_of_render_append h
    cases w with
    | object ws =>
      match vs, ws with
      | [], [] => simpa [render] using h
      | [], (l, w) :: ws => simp [render, quote] at h
      | (k, v) :: vs, [] => simp [render, quote] at h
      | (k, v) :: vs, (l, w) :: ws =>
        simp only [render, List.cons_append, List.append_assoc, List.cons.injEq, true_and] at h
        obtain ⟨rfl, hvalue⟩ := quote_append_inj h
        obtain ⟨rfl, hrest⟩ := render_append_inj (List.cons.inj hvalue).2
        obtain ⟨rfl, hst⟩ := renderMembers_append_inj hrest
        exact ⟨rfl, hst⟩
    | bool b => cases b <;> simp [opening] at ho
    | _ => simp [opening] at ho

theorem renderItems_append_inj : ∀ {vs ws : List Json} {s t : Text},
    renderItems vs ++ s = renderItems ws ++ t → vs = ws ∧ s = t
  | [], [], _, _, h => by simpa [renderItems] using h
  | [], _ :: _, _, _, h => by simp [renderItems] at h
  | _ :: _, [], _, _, h => by simp [renderItems] at h
  | v :: vs, w :: ws, s, t, h => by
    simp only [renderItems, List.cons_append, List.append_assoc, List.cons.injEq, true_and] at h
    obtain ⟨rfl, hrest⟩ := render_append_inj h
    obtain ⟨rfl, hst⟩ := renderItems_append_inj hrest
    exact ⟨rfl, hst⟩

theorem renderMembers_append_inj : ∀ {vs ws : List (Text × Json)} {s t : Text},
    renderMembers vs ++ s = renderMembers ws ++ t → vs = ws ∧ s = t
  | [], [], _, _, h => by simpa [renderMembers] using h
  | [], _ :: _, _, _, h => by simp [renderMembers] at h
  | _ :: _, [], _, _, h => by simp [renderMembers] at h
  | (k, v) :: vs, (l, w) :: ws, s, t, h => by
    simp only [renderMembers, List.cons_append, List.append_assoc, List.cons.injEq,
      true_and] at h
    obtain ⟨rfl, hvalue⟩ := quote_append_inj h
    obtain ⟨rfl, hrest⟩ := render_append_inj (List.cons.inj hvalue).2
    obtain ⟨rfl, hst⟩ := renderMembers_append_inj hrest
    exact ⟨rfl, hst⟩

end

/-- Different values have different texts. -/
theorem render_injective : Function.Injective render := by
  intro v w h
  have hnil : render v ++ [] = render w ++ [] := by rw [h]
  exact (render_append_inj hnil).1

end StudyGraph.Json
