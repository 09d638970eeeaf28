import ScriptQuote.Config.Basic
import ScriptQuote.Proofs.Config.LastSaid
import ScriptQuote.Proofs.Dictionary
import Mathlib.Algebra.BigOperators.Group.List.Basic
import Mathlib.Data.List.Induction

/-!
# Merging in any grouping

Merging treats the four parts of a configuration in four ways, and each of them
is associative and has the empty configuration for its neutral element.  So
configurations form a monoid, and a list of them comes to one configuration,
however they are grouped on the way.

The overrides ask for some care.  In a list with a name twice the first entry
counts when the name is looked up and the last one when the list is laid over
another, and then grouping does matter.  A `Layer` is a configuration with each
name once, as in any dictionary.

`mergedInOrder` goes from the lowest layer to the highest, as loading does.
`merge_regroups` is the result.
-/

namespace ScriptQuote.Config

/-- A configuration with no name twice among its overrides. -/
@[ext] structure Layer where
  config : Config
  nodup : config.overrides.NodupKeys

variable {a b c : Config}

/-! ## The monoid -/

theorem merge_assoc (ha : a.overrides.NodupKeys) (hb : b.overrides.NodupKeys)
    (hc : c.overrides.NodupKeys) : (a.merge b).merge c = a.merge (b.merge c) := by
  simp only [merge, Config.mk.injEq]
  refine ⟨Dictionary.overlay_assoc ha hb hc, ?_, ?_, List.append_assoc _ _ _⟩
  · exact Option.or_assoc.symm
  · exact (Bool.or_assoc _ _ _).symm

theorem empty_merge (ha : a.overrides.NodupKeys) : empty.merge a = a := by
  simp only [merge, empty, Dictionary.nil_overlay ha, Option.or_none, Bool.or_false,
    List.nil_append]

theorem merge_empty (a : Config) : a.merge empty = a := by
  simp only [merge, empty, Option.none_or, Bool.false_or, List.append_nil]
  rfl

/-- Over itself a configuration lists its sources once more and says nothing new. -/
theorem merge_self (ha : a.overrides.NodupKeys) :
    a.merge a = { a with sources := a.sources ++ a.sources } := by
  simp only [merge, Dictionary.overlay_self ha, Option.or_self, Bool.or_self]

instance : Monoid Layer where
  mul lower upper :=
    ⟨lower.config.merge upper.config, Dictionary.nodupKeys_overlay lower.nodup⟩
  mul_assoc a b c := Layer.ext (merge_assoc a.nodup b.nodup c.nodup)
  one := ⟨empty, Dictionary.nodupKeys_nil⟩
  one_mul a := Layer.ext (empty_merge a.nodup)
  mul_one a := Layer.ext (merge_empty a.config)

@[simp] theorem config_mul (lower upper : Layer) :
    (lower * upper).config = lower.config.merge upper.config := rfl

/-! ## Lists of layers -/

/-- Lays the layers over each other one by one, the lowest first. -/
def mergedInOrder (layers : List Layer) : Config :=
  layers.foldl (fun c layer => c.merge layer.config) empty

theorem mergedInOrder_concat (layers : List Layer) (layer : Layer) :
    mergedInOrder (layers ++ [layer]) =
      (mergedInOrder layers).merge layer.config := by
  simp [mergedInOrder]

theorem mergedInOrder_eq_prod (layers : List Layer) :
    mergedInOrder layers = layers.prod.config := by
  induction layers using List.reverseRecOn with
  | nil => rfl
  | append_singleton layers layer ih =>
    rw [mergedInOrder_concat, List.prod_append, List.prod_singleton, config_mul, ih]

/-- The value of an override is the one of the last layer that sets it. -/
theorem get?_mergedInOrder (name : Text) (layers : List Layer) :
    (mergedInOrder layers).overrides.get? name =
      lastSaid (fun layer => layer.config.overrides.get? name) layers := by
  induction layers using List.reverseRecOn with
  | nil => rfl
  | append_singleton layers layer ih =>
    rw [mergedInOrder_concat, lastSaid_concat, ← ih]
    exact Dictionary.get?_overlay layer.nodup name

/-! ## Groupings -/

/-- A way of merging layers two at a time. -/
inductive Grouping
  | nothing
  | single (layer : Layer)
  | both (lower upper : Grouping)

namespace Grouping

/-- The layers, the lowest first. -/
def layers : Grouping → List Layer
  | nothing => []
  | single layer => [layer]
  | both lower upper => lower.layers ++ upper.layers

/-- What merging in this way comes to. -/
def merged : Grouping → Config
  | nothing => empty
  | single layer => layer.config
  | both lower upper => lower.merged.merge upper.merged

theorem merged_eq_prod (g : Grouping) : g.merged = g.layers.prod.config := by
  induction g with
  | nothing => rfl
  | single layer => rw [merged, layers, List.prod_singleton]
  | both lower upper hlower hupper =>
    rw [merged, layers, List.prod_append, config_mul, hlower, hupper]

end Grouping

/-- Merging is associative in every part, the order of the overrides included;
the empty configuration is neutral on both sides, and a configuration over
itself is that configuration with its sources twice.  So a list of layers comes
to the same configuration in any grouping, and the last layer that sets an
override has the say. -/
theorem merge_regroups :
    (∀ a b c : Layer,
      (a.config.merge b.config).merge c.config =
        a.config.merge (b.config.merge c.config)) ∧
    (∀ a : Layer, empty.merge a.config = a.config ∧ a.config.merge empty = a.config ∧
      a.config.merge a.config =
        { a.config with sources := a.config.sources ++ a.config.sources }) ∧
    ∀ g : Grouping, g.merged = mergedInOrder g.layers ∧
      ∀ name, g.merged.overrides.get? name =
        lastSaid (fun layer => layer.config.overrides.get? name) g.layers := by
  refine ⟨?_, ?_, ?_⟩
  · intro a b c
    exact merge_assoc a.nodup b.nodup c.nodup
  · intro a
    exact ⟨empty_merge a.nodup, merge_empty a.config, merge_self a.nodup⟩
  · intro g
    have hmerged : g.merged = mergedInOrder g.layers := by
      rw [g.merged_eq_prod, mergedInOrder_eq_prod]
    refine ⟨hmerged, fun name => ?_⟩
    rw [hmerged, get?_mergedInOrder]

end ScriptQuote.Config
