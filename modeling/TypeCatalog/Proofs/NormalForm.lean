import Mathlib.Data.List.Forall2
import TypeCatalog.Name

/-!
# When normal forms are stable

A normal form is normalized again on its way into tables and anchors.  For the
normal form only the code points that are not blank count, and which of them
have blanks before them: a row of code points with gaps.  Normalizing closes
gaps of a row.  Where it closes the gap between a single colon and a separator,
the colons pair up in another way, and the next pass may find a gap that this
one had to leave.
-/

namespace TypeCatalog.Name

open Text

/-! ## Rows of code points with gaps -/

/-- Code points that are not blank, each with whether blanks stand before it. -/
abbrev Row := List (Bool × CodePoint)

def spaced : Bool → CodeText → Row
  | _, [] => []
  | gap, c :: rest => if c.isBlank then spaced true rest else (gap, c) :: spaced false rest

def flush : Row → Row
  | [] => []
  | (_, c) :: rest => (false, c) :: rest

theorem flush_flush (row : Row) : flush (flush row) = flush row := by
  cases row <;> rfl

def shown (row : Row) : CodeText :=
  row.flatMap fun (gap, c) => if gap then [.scalar ' ', c] else [c]

@[simp] theorem shown_nil : shown [] = [] := rfl

@[simp] theorem shown_cons (gap : Bool) (c : CodePoint) (row : Row) :
    shown ((gap, c) :: row) = (if gap then [.scalar ' ', c] else [c]) ++ shown row := rfl

@[simp] theorem spaced_blank {c : CodePoint} (blank : c.isBlank = true) (gap : Bool)
    (rest : CodeText) : spaced gap (c :: rest) = spaced true rest := by
  rw [spaced, if_pos blank]

@[simp] theorem spaced_visible {c : CodePoint} (visible : c.isBlank = false) (gap : Bool)
    (rest : CodeText) : spaced gap (c :: rest) = (gap, c) :: spaced false rest := by
  rw [spaced, if_neg (by simp [visible])]

theorem spaced_blanks_append {blanks : CodeText} (blank : ∀ c ∈ blanks, c.isBlank = true)
    (gap : Bool) (rest : CodeText) :
    spaced gap (blanks ++ rest) = spaced (gap || !blanks.isEmpty) rest := by
  induction blanks generalizing gap with
  | nil => simp
  | cons c blanks ih =>
      rw [List.cons_append, spaced_blank (blank c List.mem_cons_self),
        ih (fun d mem => blank d (List.mem_cons_of_mem c mem))]
      simp

theorem gap_of_head?_spaced {gap : Bool} {c : CodePoint} {text : CodeText}
    (front : (spaced true text).head? = some (gap, c)) : gap = true := by
  induction text with
  | nil => cases front
  | cons d rest ih =>
      cases blank : d.isBlank with
      | true => exact ih (by rwa [spaced_blank blank] at front)
      | false =>
          rw [spaced_visible blank] at front
          cases front
          rfl

theorem head?_of_spaced {c : CodePoint} {text : CodeText}
    (front : (spaced false text).head? = some (false, c)) : text.head? = some c := by
  rcases text with _ | ⟨d, rest⟩
  · cases front
  · cases blank : d.isBlank with
    | true =>
        rw [spaced_blank blank] at front
        cases gap_of_head?_spaced front
    | false =>
        rw [spaced_visible blank] at front
        cases front
        rfl

theorem map_spaced (gap : Bool) (text : CodeText) :
    (spaced gap text).map (·.2) = text.filter (!·.isBlank) := by
  induction text generalizing gap with
  | nil => rfl
  | cons c rest ih => cases blank : c.isBlank <;> simp [blank, ih]

/-! ## Trimmed and collapsed texts -/

theorem trimRight_visible {c : CodePoint} (visible : c.isBlank = false) (rest : CodeText) :
    trimRight (c :: rest) = c :: trimRight rest := by
  rw [trimRight, List.reverse_cons, List.dropWhile_append]
  split
  · rename_i none_left
    have none_left : rest.reverse.dropWhile CodePoint.isBlank = [] := by simpa using none_left
    simp [trimRight, visible, none_left]
  · simp [trimRight]

theorem trimRight_blank {c : CodePoint} (blank : c.isBlank = true) (rest : CodeText) :
    trimRight (c :: rest) = if trimRight rest = [] then [] else c :: trimRight rest := by
  rw [trimRight, List.reverse_cons, List.dropWhile_append]
  split
  · rename_i none_left
    have none_left : rest.reverse.dropWhile CodePoint.isBlank = [] := by simpa using none_left
    simp [trimRight, blank, none_left]
  · rename_i some_left
    have some_left : rest.reverse.dropWhile CodePoint.isBlank ≠ [] := by simpa using some_left
    simp [trimRight, some_left]

theorem spaced_trimRight (gap : Bool) (text : CodeText) :
    spaced gap (trimRight text) = spaced gap text := by
  induction text generalizing gap with
  | nil => rfl
  | cons c rest ih =>
      cases blank : c.isBlank with
      | false => simp [trimRight_visible, blank, ih]
      | true =>
          rw [trimRight_blank blank, spaced_blank blank, ← ih true]
          split
          · rename_i empty
            rw [empty, spaced, spaced]
          · rw [spaced_blank blank]

theorem spaced_trimLeft (gap : Bool) (text : CodeText) :
    spaced false (trimLeft text) = flush (spaced gap text) := by
  induction text generalizing gap with
  | nil => rfl
  | cons c rest ih =>
      cases blank : c.isBlank with
      | false => simp [trimLeft, blank, flush]
      | true =>
          rw [spaced_blank blank, ← ih true]
          simp [trimLeft, blank]

theorem spaced_trim (text : CodeText) : spaced false (trim text) = flush (spaced false text) := by
  rw [trim, spaced_trimRight, spaced_trimLeft false]

theorem isBlank_space : CodePoint.isBlank (.scalar ' ') = true := by
  decide

theorem trimRight_collapseFrom (inside : Bool) (text : CodeText) :
    trimRight ((if inside then [.scalar ' '] else []) ++ collapseFrom inside text) =
      shown (spaced inside text) := by
  induction text generalizing inside with
  | nil => cases inside <;> rfl
  | cons c rest ih =>
      cases blank : c.isBlank with
      | true =>
          rw [spaced_blank blank, ← ih true]
          cases inside <;> simp [collapseFrom, blank]
      | false =>
          have others : trimRight (collapseFrom false rest) = shown (spaced false rest) := ih false
          cases inside <;>
            simp [collapseFrom, blank, trimRight_visible, trimRight_blank isBlank_space, others]

theorem trim_collapseFrom (inside : Bool) (text : CodeText) :
    trim (collapseFrom inside text) = shown (flush (spaced inside text)) := by
  induction text generalizing inside with
  | nil => rfl
  | cons c rest ih =>
      cases blank : c.isBlank with
      | true =>
          rw [spaced_blank blank, ← ih true]
          cases inside <;> simp [collapseFrom, blank, trim, trimLeft, isBlank_space]
      | false =>
          have others : trimRight (collapseFrom false rest) = shown (spaced false rest) :=
            trimRight_collapseFrom false rest
          simp [collapseFrom, blank, trim, trimLeft, trimRight_visible, others, flush]

theorem trim_collapse (text : CodeText) :
    trim (collapse text) = shown (flush (spaced false text)) :=
  trim_collapseFrom false text

theorem spaced_shown {row : Row} (visible : ∀ point ∈ row, point.2.isBlank = false) :
    spaced false (shown row) = row := by
  induction row with
  | nil => rfl
  | cons point row ih =>
      obtain ⟨gap, c⟩ := point
      have first : c.isBlank = false := visible (gap, c) List.mem_cons_self
      have others := ih fun point mem => visible point (List.mem_cons_of_mem _ mem)
      cases gap <;> simp [first, isBlank_space, others]

/-! ## Closing the gaps of a row -/

/-- Closes the gaps before and after separators; `after` says that a separator has just been
read. -/
def closeScopes : Bool → Row → Row
  | _, [] => []
  | _, (_, .scalar ':') :: (false, .scalar ':') :: rest =>
    (false, .scalar ':') :: (false, .scalar ':') :: closeScopes true rest
  | after, (gap, c) :: rest => (gap && !after, c) :: closeScopes false rest

/-- Closes the gaps between two colons and a tilde; `colons` counts the colons just read. -/
def closeTilde : Nat → Row → Row
  | _, [] => []
  | colons, (gap, c) :: rest =>
    if c == .scalar '~' && 2 ≤ colons then (false, c) :: closeTilde 0 rest
    else
      (gap, c) :: closeTilde (if c == .scalar ':' then (if gap then 1 else colons + 1) else 0) rest

def tighten (row : Row) : Row :=
  closeTilde 0 (closeScopes false row)

theorem isBlank_colon : CodePoint.isBlank (.scalar ':') = false := by
  decide

def Joins (c : CodePoint) (row : Row) : Prop :=
  c = .scalar ':' ∧ row.head? = some (false, .scalar ':')

instance (c : CodePoint) (row : Row) : Decidable (Joins c row) :=
  inferInstanceAs (Decidable (_ ∧ _))

theorem not_joins_of_ne {c : CodePoint} {row : Row}
    (apart : ∀ rest, row = (false, .scalar ':') :: rest → c = .scalar ':' → False) :
    ¬Joins c row := by
  rintro ⟨c_eq, front⟩
  obtain ⟨rest, row_eq⟩ := List.head?_eq_some_iff.mp front
  exact apart rest row_eq c_eq

theorem closeScopes_other {c : CodePoint} {row : Row} (single : ¬Joins c row) (after gap : Bool) :
    closeScopes after ((gap, c) :: row) = (gap && !after, c) :: closeScopes false row := by
  rw [closeScopes]
  rintro rest rfl c_eq
  exact single ⟨c_eq, rfl⟩

theorem spaced_tightenScopes {after gap : Bool} {held : CodeText}
    (blank : ∀ c ∈ held, c.isBlank = true) (dropped : after = true → held = [])
    (gap_eq : after = false → gap = !held.isEmpty) (text : CodeText) :
    spaced false (tightenScopes after held text) = closeScopes after (spaced gap text) := by
  fun_induction tightenScopes after held text generalizing gap with
  | case1 after held =>
      simpa [spaced, closeScopes] using spaced_blanks_append blank false []
  | case2 after held rest ih =>
      have others : spaced false (tightenScopes true [] rest) =
          closeScopes true (spaced false rest) :=
        ih (by simp) (fun _ => rfl) (by simp)
      simp [scopeSeparator, CodeText.ofString, CodeText.ofChars, isBlank_colon, others, closeScopes]
  | case3 held c rest other c_blank ih =>
      rw [spaced_blank c_blank]
      exact ih (by simp) (fun _ => rfl) (by simp)
  | case4 after held c rest other c_blank fresh ih =>
      rw [spaced_blank c_blank]
      obtain rfl : after = false := by simpa using fresh
      exact ih (List.forall_mem_append.mpr ⟨blank, by simpa⟩) (by simp) (by simp)
  | case5 after held c rest other not_blank ih =>
      have visible : c.isBlank = false := by simpa using not_blank
      have single : ¬Joins c (spaced false rest) := by
        rintro ⟨c_eq, front⟩
        obtain ⟨following, rest_eq⟩ := List.head?_eq_some_iff.mp (head?_of_spaced front)
        exact other following c_eq rest_eq
      have others : spaced false (tightenScopes false [] rest) =
          closeScopes false (spaced false rest) :=
        ih (by simp) (fun _ => rfl) (by simp)
      rw [spaced_blanks_append blank, spaced_visible visible, spaced_visible visible, others,
        closeScopes_other single]
      cases after with
      | true => simp [dropped rfl]
      | false => simp [gap_eq rfl]

theorem spaced_tightenTilde {held : CodeText} (blank : ∀ c ∈ held, c.isBlank = true) (colons : Nat)
    (text : CodeText) :
    spaced false (tightenTilde colons held text) =
      closeTilde colons (spaced (!held.isEmpty) text) := by
  fun_induction tightenTilde colons held text with
  | case1 colons held =>
      simpa [spaced, closeTilde] using spaced_blanks_append blank false []
  | case2 colons held c rest c_blank ih =>
      rw [spaced_blank c_blank, ih (List.forall_mem_append.mpr ⟨blank, by simpa⟩)]
      cases held <;> rfl
  | case3 colons held c rest not_blank joins ih =>
      have visible : c.isBlank = false := by simpa using not_blank
      rw [spaced_visible visible, spaced_visible visible, closeTilde, if_pos joins, ih (by simp)]
      rfl
  | case4 colons held c rest not_blank apart count ih =>
      have visible : c.isBlank = false := by simpa using not_blank
      rw [spaced_blanks_append blank, spaced_visible visible, spaced_visible visible, closeTilde,
        if_neg apart, ih (by simp)]
      cases held <;> simp [count]

theorem flush_closeScopes (row : Row) :
    flush (closeScopes false row) = closeScopes false (flush row) := by
  rcases row with _ | ⟨⟨gap, c⟩, rest⟩
  · rfl
  · by_cases joins : Joins c rest
    · obtain ⟨rfl, front⟩ := joins
      obtain ⟨others, rfl⟩ := List.head?_eq_some_iff.mp front
      rfl
    · rw [flush, closeScopes_other joins, closeScopes_other joins, flush]
      rfl

theorem flush_closeTilde (row : Row) :
    flush (closeTilde 0 row) = closeTilde 0 (flush row) := by
  rcases row with _ | ⟨⟨gap, c⟩, rest⟩
  · rfl
  · simp [closeTilde, flush]

def rowOf (name : CodeText) : Row :=
  flush (spaced false name)

/-! ## Rows that are tight -/

def Tighter (tight loose : Row) : Prop :=
  List.Forall₂ (fun closed opened => (closed.1 = true → opened.1 = true) ∧ closed.2 = opened.2)
    tight loose

theorem Tighter.refl (row : Row) : Tighter row row :=
  List.forall₂_same.mpr fun _ _ => ⟨id, rfl⟩

theorem Tighter.trans {first second third : Row} (closed : Tighter first second)
    (again : Tighter second third) : Tighter first third := by
  induction closed generalizing third with
  | nil => exact again
  | cons point _ ih =>
      rcases again with _ | ⟨next, others⟩
      exact .cons ⟨next.1 ∘ point.1, point.2.trans next.2⟩ (ih others)

theorem Tighter.antisymm {first second : Row} (closed : Tighter first second)
    (opened : Tighter second first) : first = second := by
  induction closed with
  | nil => rfl
  | cons point _ ih =>
      rcases opened with _ | ⟨back, others⟩
      rw [ih others, Prod.ext (Bool.eq_iff_iff.mpr ⟨point.1, back.1⟩) point.2]

theorem Tighter.map_eq {tight loose : Row} (closed : Tighter tight loose) :
    tight.map (·.2) = loose.map (·.2) := by
  induction closed with
  | nil => rfl
  | cons point _ ih => rw [List.map_cons, List.map_cons, point.2, ih]

theorem tighter_flush (row : Row) : Tighter (flush row) row := by
  cases row with
  | nil => exact .nil
  | cons point row => exact .cons ⟨nofun, rfl⟩ (Tighter.refl row)

theorem tighter_closeScopes (after : Bool) (row : Row) : Tighter (closeScopes after row) row := by
  fun_induction closeScopes after row with
  | case1 after => exact .nil
  | case2 after gap rest ih => exact .cons ⟨nofun, rfl⟩ (.cons ⟨nofun, rfl⟩ ih)
  | case3 after gap c rest apart ih =>
      exact .cons ⟨fun both => (Bool.and_eq_true_iff.mp both).1, rfl⟩ ih

theorem tighter_closeTilde (colons : Nat) (row : Row) : Tighter (closeTilde colons row) row := by
  fun_induction closeTilde colons row with
  | case1 colons => exact .nil
  | case2 colons gap c rest joins ih => exact .cons ⟨nofun, rfl⟩ ih
  | case3 colons gap c rest apart ih => exact .cons ⟨id, rfl⟩ ih

theorem tighter_tighten (row : Row) : Tighter (tighten row) row :=
  (tighter_closeTilde 0 _).trans (tighter_closeScopes false row)

theorem closeTilde_closeTilde (colons : Nat) (row : Row) :
    closeTilde colons (closeTilde colons row) = closeTilde colons row := by
  fun_induction closeTilde colons row with
  | case1 colons => rfl
  | case2 colons gap c rest joins ih => rw [closeTilde, if_pos joins, ih]
  | case3 colons gap c rest apart ih => rw [closeTilde, if_neg apart, ih]

/-- Whether a row has a gap beside a separator, the colons being paired from the left; `after`
says that a separator has just been read. -/
def Row.isLoose : Bool → Row → Bool
  | _, [] => false
  | _, (gap, .scalar ':') :: (false, .scalar ':') :: rest => gap || Row.isLoose true rest
  | after, (gap, _) :: rest => gap && after || Row.isLoose false rest

theorem closeScopes_eq_self_iff (after : Bool) (row : Row) :
    closeScopes after row = row ↔ Row.isLoose after row = false := by
  fun_induction Row.isLoose after row with
  | case1 after => simp [closeScopes]
  | case2 after gap rest ih => cases gap <;> simp [closeScopes, ih]
  | case3 after gap c rest apart ih =>
      rw [closeScopes_other (not_joins_of_ne apart)]
      simp [ih]

/-- A pass over a row after a pass leaves it as it is exactly if no gap beside a separator was
left. -/
theorem tighten_tighten_iff (row : Row) :
    tighten (tighten row) = tighten row ↔ Row.isLoose false (tighten row) = false := by
  rw [← closeScopes_eq_self_iff]
  constructor
  · intro stable
    have opened : Tighter (tighten row) (closeScopes false (tighten row)) := by
      have closed := tighter_closeTilde 0 (closeScopes false (tighten row))
      rwa [← tighten, stable] at closed
    exact (tighter_closeScopes false _).antisymm opened
  · intro tight
    rw [tighten.eq_def (tighten row), tight, tighten, closeTilde_closeTilde]

/-! ## Loose separators -/

def isLoose : CodeText → Bool
  | [] => false
  | .scalar ':' :: .scalar ':' :: rest => rest.head?.any CodePoint.isBlank || isLoose rest
  | c :: rest => c.isBlank && scopeSeparator.isPrefixOf rest || isLoose rest

theorem head?_shown {row : Row} (visible : ∀ point ∈ row, point.2.isBlank = false) :
    (shown row).head?.any CodePoint.isBlank = row.head?.any (·.1) := by
  rcases row with _ | ⟨⟨gap, c⟩, rest⟩
  · rfl
  · cases gap with
    | true => simp [isBlank_space]
    | false => simp [show c.isBlank = false from visible (false, c) List.mem_cons_self]

theorem separator_prefix_iff {text : CodeText} :
    scopeSeparator <+: text ↔ ∃ rest, text = .scalar ':' :: .scalar ':' :: rest :=
  ⟨fun ⟨rest, joined⟩ => ⟨rest, joined.symm⟩, fun ⟨rest, joined⟩ => ⟨rest, joined.symm⟩⟩

theorem isLoose_other {c : CodePoint} {text : CodeText} (single : ¬scopeSeparator <+: c :: text) :
    isLoose (c :: text) = (c.isBlank && scopeSeparator.isPrefixOf text || isLoose text) := by
  rw [isLoose]
  rintro rest rfl rfl
  exact single (separator_prefix_iff.mpr ⟨rest, rfl⟩)

theorem not_prefix_space (text : CodeText) : ¬scopeSeparator <+: .scalar ' ' :: text := by
  simp [separator_prefix_iff]

theorem isLoose_shown {row : Row} (visible : ∀ point ∈ row, point.2.isBlank = false)
    (after : Bool) :
    (after && row.head?.any (·.1) || isLoose (shown row)) = Row.isLoose after row := by
  fun_induction Row.isLoose after row with
  | case1 after => simp [isLoose]
  | case2 after gap rest ih =>
      have rest_visible : ∀ point ∈ rest, point.2.isBlank = false :=
        fun point mem => visible point (List.mem_cons_of_mem _ (List.mem_cons_of_mem _ mem))
      have others := ih rest_visible
      rw [Bool.true_and, ← head?_shown rest_visible] at others
      cases gap with
      | false => simpa [isLoose] using others
      | true =>
          simp [isLoose_other (not_prefix_space _), isBlank_space, separator_prefix_iff]
  | case3 after gap c rest apart ih =>
      have c_visible : c.isBlank = false := visible (gap, c) List.mem_cons_self
      have rest_visible : ∀ point ∈ rest, point.2.isBlank = false :=
        fun point mem => visible point (List.mem_cons_of_mem _ mem)
      have single : ¬scopeSeparator <+: c :: shown rest := by
        rw [separator_prefix_iff]
        rintro ⟨text, front⟩
        obtain ⟨c_eq, text_eq⟩ := List.cons_eq_cons.mp front
        have row_eq := spaced_shown rest_visible
        rw [text_eq, spaced_visible isBlank_colon] at row_eq
        exact apart _ row_eq.symm c_eq
      have first : isLoose (c :: shown rest) = Row.isLoose false rest := by
        rw [isLoose_other single, c_visible, ← ih rest_visible]
        rfl
      cases gap with
      | false => simpa using first
      | true =>
          have alone : scopeSeparator.isPrefixOf (c :: shown rest) = false := by
            simpa [Bool.eq_false_iff] using single
          simp [isLoose_other (not_prefix_space _), isBlank_space, alone, first]

theorem Row.isLoose_other {c : CodePoint} {row : Row} (single : ¬Joins c row) (after gap : Bool) :
    Row.isLoose after ((gap, c) :: row) = (gap && after || Row.isLoose false row) := by
  rw [Row.isLoose]
  rintro rest rfl c_eq
  exact single ⟨c_eq, rfl⟩

/-- Only a third colon beside a separator pairs the colons in another way. -/
theorem isLoose_closeScopes {row : Row} (few : ¬ (":::" : CodeText) <:+: row.map (·.2))
    (after : Bool) : Row.isLoose after (closeScopes after row) = false := by
  fun_induction closeScopes after row with
  | case1 after => rfl
  | case2 after gap rest ih =>
      exact ih fun three => few (List.infix_cons (List.infix_cons three))
  | case3 after gap c rest apart ih =>
      have others := ih fun three => few (List.infix_cons three)
      have single : ¬Joins c (closeScopes false rest) := by
        rintro ⟨rfl, front⟩
        rcases rest with _ | ⟨⟨opened, d⟩, rest⟩
        · cases front
        · by_cases joins : Joins d rest
          · obtain ⟨rfl, last⟩ := joins
            obtain ⟨following, rfl⟩ := List.head?_eq_some_iff.mp last
            exact few ⟨[], following.map (·.2), rfl⟩
          · rw [closeScopes_other joins] at front
            simp_all
      rw [Row.isLoose_other single, others]
      cases after <;> simp

theorem head?_of_closeTilde {colons : Nat} {row : Row}
    (front : (closeTilde colons row).head? = some (false, .scalar ':')) :
    row.head? = some (false, .scalar ':') := by
  rcases row with _ | ⟨⟨gap, c⟩, rest⟩
  · cases front
  · rw [closeTilde] at front
    split at front <;> simp_all

theorem isLoose_closeTilde {after : Bool} {row : Row} (tight : Row.isLoose after row = false)
    (colons : Nat) : Row.isLoose after (closeTilde colons row) = false := by
  fun_induction Row.isLoose after row generalizing colons with
  | case1 after => rfl
  | case2 after gap rest ih =>
      obtain ⟨rfl, rest_tight⟩ : gap = false ∧ Row.isLoose true rest = false := by
        simpa using tight
      simpa [closeTilde, Row.isLoose] using ih rest_tight _
  | case3 after gap c rest apart ih =>
      obtain ⟨closed, rest_tight⟩ : (gap && after) = false ∧ Row.isLoose false rest = false :=
        Bool.or_eq_false_iff.mp tight
      have single (colons : Nat) : ¬Joins c (closeTilde colons rest) :=
        fun ⟨c_eq, front⟩ => not_joins_of_ne apart ⟨c_eq, head?_of_closeTilde front⟩
      rw [closeTilde]
      split
      · rw [Row.isLoose_other (single 0), ih rest_tight 0]
        rfl
      · rw [Row.isLoose_other (single _), closed, ih rest_tight _]
        rfl

/-! ## Normal forms -/

theorem map_tighten_rowOf (name : CodeText) :
    (tighten (rowOf name)).map (·.2) = name.filter (!·.isBlank) := by
  rw [(tighter_tighten _).map_eq, rowOf, (tighter_flush _).map_eq, map_spaced]

theorem visible_tighten_rowOf (name : CodeText) :
    ∀ point ∈ tighten (rowOf name), point.2.isBlank = false := by
  intro point mem
  have held : point.2 ∈ (tighten (rowOf name)).map (·.2) := List.mem_map_of_mem mem
  rw [map_tighten_rowOf] at held
  simpa using (List.mem_filter.mp held).2

theorem flush_tighten_rowOf (name : CodeText) :
    flush (tighten (rowOf name)) = tighten (rowOf name) := by
  rw [tighten, flush_closeTilde, flush_closeScopes, rowOf, flush_flush]

theorem normalize_eq (name : CodeText) : normalize name = shown (tighten (rowOf name)) := by
  have scopes : spaced false (tightenScopes false [] (trim name)) =
      closeScopes false (rowOf name) := by
    rw [rowOf, ← spaced_trim]
    exact spaced_tightenScopes (by simp) (by simp) (by simp) _
  have tightened : spaced false (tightenTilde 0 [] (tightenScopes false [] (trim name))) =
      tighten (rowOf name) := by
    rw [spaced_tightenTilde (by simp), List.isEmpty_nil, Bool.not_true, scopes, tighten]
  rw [normalize, trim_collapse, tightened, flush_tighten_rowOf]

theorem filter_shown {row : Row} (visible : ∀ point ∈ row, point.2.isBlank = false) :
    (shown row).filter (!·.isBlank) = row.map (·.2) := by
  induction row with
  | nil => rfl
  | cons point rest ih =>
      obtain ⟨gap, c⟩ := point
      obtain ⟨first, others⟩ := List.forall_mem_cons.mp visible
      rw [shown_cons, List.filter_append, ih others]
      cases gap <;> simp [first, isBlank_space]

theorem filter_normalize (name : CodeText) :
    (normalize name).filter (!·.isBlank) = name.filter (!·.isBlank) := by
  rw [normalize_eq, filter_shown (visible_tighten_rowOf name), map_tighten_rowOf]

theorem rowOf_normalize (name : CodeText) : rowOf (normalize name) = tighten (rowOf name) := by
  rw [normalize_eq, rowOf, spaced_shown (visible_tighten_rowOf name), flush_tighten_rowOf]

theorem normalize_normalize_iff (name : CodeText) :
    normalize (normalize name) = normalize name ↔
      Row.isLoose false (tighten (rowOf name)) = false := by
  rw [← tighten_tighten_iff]
  constructor
  · intro stable
    have rows := congrArg rowOf stable
    rwa [rowOf_normalize, rowOf_normalize] at rows
  · intro stable
    rw [normalize_eq (normalize name), rowOf_normalize, stable, normalize_eq]

/-- A normal form is stable exactly if it has no blank beside a separator, and it has none if
the name has no three colons in a row, blanks left out. -/
theorem normalize_stable_iff (name : CodeText) :
    (normalize (normalize name) = normalize name ↔ isLoose (normalize name) = false) ∧
      (¬ (":::" : CodeText) <:+: name.filter (!·.isBlank) →
        normalize (normalize name) = normalize name) := by
  rw [normalize_normalize_iff]
  refine ⟨?_, fun few => ?_⟩
  · rw [normalize_eq, ← isLoose_shown (visible_tighten_rowOf name) false, Bool.false_and,
      Bool.false_or]
  · refine isLoose_closeTilde (isLoose_closeScopes ?_ false) 0
    rwa [rowOf, (tighter_flush _).map_eq, map_spaced]

theorem conditionalShape_stable :
    let name : CodeText := "  geo :: Shape< x ? a : b > ::  ~ Shape "
    ¬ (":::" : CodeText) <:+: name.filter (!·.isBlank) ∧
      normalize name = "geo::Shape< x ? a : b >::~ Shape" ∧
      normalize (normalize name) = normalize name ∧ isLoose (normalize name) = false := by
  intro name
  have few : ¬ (":::" : CodeText) <:+: name.filter (!·.isBlank) := by decide +kernel
  obtain ⟨stable_iff, stable⟩ := normalize_stable_iff name
  exact ⟨few, by decide +kernel, stable few, stable_iff.mp (stable few)⟩

/-- The single colon of a conditional argument joins the separator after it, and the second
pass takes the first two of three colons for the separator. -/
theorem globalArgument_not_stable :
    let name : CodeText := "C<x ? a : ::b>"
    normalize name = "C<x ? a :::b>" ∧ normalize (normalize name) = "C<x ? a:::b>" ∧
      normalize (normalize name) ≠ normalize name := by
  decide +kernel

end TypeCatalog.Name
