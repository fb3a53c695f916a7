import QueryTemplate.Proofs.Binding.Comparison
import QueryTemplate.Proofs.Binding.Numbering
import QueryTemplate.Proofs.Canonical.Place
import QueryTemplate.Proofs.Template.Token

/-! # Identifiers are read back

The written form of a parameter that a query binds is a template of its own: one marker, which
refers to that parameter. A written parameter was read from a marker and can be read again; a minted
name is a word since its stem is one, and a minted position is one that can be addressed.

* `Spells.scan_eq`: a spelling that stands alone is scanned as one marker.
* `readable_of_mem_markers`, `readable_of_identifierIn?`: the identifiers that markers can have.
* `scan_identifier_text`: the identifiers of a parsed template.
-/

namespace QueryTemplate

/-- A marker that stands alone. -/
def Marker.alone (text : Text) (target : Target) : Marker where
  start := 0
  text := text
  target := target
  leading := false
  trailing := false
  context := .plain
  escape := none

/-- Nothing stands around the spelling that could make another marker of it. -/
theorem Spells.scan_eq {identifier : Identifier} {written : Text}
    (spells : Spells identifier written) (options : Options) :
    scan options written = .ok [.marker (.alone written identifier.target)] := by
  have head : written.head? ≠ some '%' := by
    rw [spells.head?]
    exact fun percent => identifier.sigil_ne_percent (Option.some.inj percent)
  have found : readTarget none written = .found identifier.target written [] := by
    have read := @Spells.readTarget_eq _ _ [] spells none nofun rfl
    rwa [List.append_nil] at read
  have reading : readingAt none written = .found identifier.target written [] := by
    rw [readingAt_of_ne head, found]
  have taken : markerAt options 0 [] written =
      .ok (some (.alone written identifier.target, [])) := by
    have leading : (written.head? == some '%') = false := by simpa using head
    rw [@markerAt_of_found options 0 [] _ _ _ _ reading, leading]
    rfl
  have clear : splitOpaque? options.skipComments written = none :=
    splitOpaque?_eq_none_of_readingAt (by rw [reading]; simp)
  rw [scan, scanFrom_of_marker clear taken, scanFrom_nil]
  rfl

/-! ## Identifiers that can be read -/

theorem readable_of_mem_markers {options : Options} {template : Text} {spans : List Span}
    (cut : scan options template = .ok spans) {marker : Marker} (member : marker ∈ markers spans)
    {identifier : Identifier} (explicit : marker.target = identifier.target) :
    identifier.Readable := by
  obtain ⟨before, after, split⟩ := List.append_of_mem (mem_markers_iff.1 member)
  have token := ((segments_of_scanFrom cut).maximalMarker boundary_nil split).token
  rw [explicit] at token
  generalize marker.text = written at token
  cases identifier with
  | name word =>
    cases token with
    | named nonempty inside _ => exact ⟨nonempty, inside⟩
  | position number =>
    cases token with
    | positional _ _ _ _ addressable => exact addressable

/-- An identifier can be read if it is one that is written, or if it is minted. -/
theorem readable_of_identifierIn? {stem : Text} (valid : (Identifier.name stem).Readable)
    {spans : List Span} {targets : List Target} {target : Target} {identifier : Identifier}
    (explicit : ∀ other : Identifier, target = other.target → other.Readable)
    (given : identifierIn? stem spans targets target = some identifier) :
    identifier.Readable := by
  cases target with
  | named name =>
    cases given
    exact explicit (.name name) rfl
  | positional position =>
    cases given
    exact explicit (.position position) rfl
  | namedExpression expression =>
    cases given
    exact readable_numberedName valid _
  | positionalExpression expression =>
    obtain ⟨position, placed, rfl⟩ := Option.map_eq_some_iff.1 given
    -- Minted positions are counted from one above the highest written position.
    rw [positionIn?] at placed
    split at placed
    next addressable =>
      cases placed
      exact ⟨Nat.le_add_left 1 _, addressable⟩
    next => cases placed

/-- The identifier of a binding, when it is printed, is a template with that parameter as its only
marker, whatever the options. -/
theorem scan_identifier_text {options : Options} {template : Text} {query : Query}
    (parsed : (Query.parse options template).outcome = .ok query) {binding : Binding}
    (member : binding ∈ query.bindings) (other : Options) :
    scan other binding.identifier.text =
        .ok [.marker (.alone binding.identifier.text binding.identifier.target)] ∧
      ∀ position, binding.identifier = .position position → 1 ≤ position := by
  obtain ⟨valid, spans, cut⟩ := scan_of_parse_ok parsed
  obtain ⟨-, held, -⟩ := bound_of_parse_ok cut parsed
  rw [held] at member
  obtain ⟨occurrence, occurs, offered⟩ := List.mem_filterMap.1 (mem_of_mem_firsts member)
  have readable : binding.identifier.Readable := by
    have given := identity_of_mem occurs
    rw [identity_of_binding? offered] at given
    apply readable_of_identifierIn? valid _ given.symm
    intro written explicit
    exact readable_of_mem_markers cut (mem_of_mem_occurrences occurs) explicit
  refine ⟨readable.spells.scan_eq other, fun position isPosition => ?_⟩
  rw [isPosition] at readable
  exact readable.1

theorem scan_identifier_text_of_minted :
    ∃ query, (Query.parse {} "?07 :#{e} ?#{f}".toList).outcome = .ok query ∧
      query.bindings.map (·.identifier) =
        [.position 7, .name "__synthetic__1".toList, .position 8] ∧
      scan { skipComments := true } ":__synthetic__1".toList =
        .ok [.marker (.alone ":__synthetic__1".toList (.named "__synthetic__1".toList))] ∧
      scan { skipComments := true } "?8".toList =
        .ok [.marker (.alone "?8".toList (.positional 8))] := by
  have parsed : (Query.parse {} "?07 :#{e} ?#{f}".toList).outcome = .ok
      { template := "?07 :#{e} ?#{f}".toList
        canonical := "?07 :__synthetic__1 ?8".toList
        bindings := [⟨.position 7, .simple, none⟩,
          ⟨.name "__synthetic__1".toList, .simple, some ['e']⟩, ⟨.position 8, .simple, some ['f']⟩]
        constructs := false
        rootAlias := none } :=
    eq_ok_of_toOption (by decide +kernel)
  have name := scan_identifier_text parsed (.tail _ (.head _)) { skipComments := true }
  have position := scan_identifier_text parsed (.tail _ (.tail _ (.head _)))
    { skipComments := true }
  exact ⟨_, parsed, rfl, name.1, position.1⟩

end QueryTemplate
