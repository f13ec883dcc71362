import SchemaReview.Schema.Basic

/-!
# Equality of nodes

Two nodes are equal when all their attributes are, where attributes taken from JSON are compared as
values. The text that a field was read from takes no part.
-/
namespace SchemaReview

namespace Schema

mutual

def same (a b : Schema) : Bool :=
  match a with
  | { kind, name, qualifier, documentation, fields, typeName, logicalType, size, symbols,
      symbolValues, items, values, members, additionalProperties } =>
    kind == b.kind && name.same b.name && qualifier == b.qualifier &&
    documentation.same b.documentation && sameFields fields b.fields && typeName == b.typeName &&
    logicalType.same b.logicalType && size == b.size && symbols == b.symbols &&
    symbolValues == b.symbolValues && sameOption items b.items && sameOption values b.values &&
    sameList members b.members && additionalProperties == b.additionalProperties

def sameField (f g : Field) : Bool :=
  match f with
  | { name, type, documentation, hasDefault, default, tag, label, raw := _ } =>
    name == g.name && same type g.type && documentation.same g.documentation &&
    hasDefault == g.hasDefault && default.same g.default && tag == g.tag && label == g.label

def sameFields : List Field → List Field → Bool
  | [], gs => gs.isEmpty
  | f :: fs, gs =>
    match gs with
    | [] => false
    | g :: gs => sameField f g && sameFields fs gs

def sameOption : Option Schema → Option Schema → Bool
  | none, b => b.isNone
  | some a, b =>
    match b with
    | none => false
    | some b => same a b

def sameList : List Schema → List Schema → Bool
  | [], bs => bs.isEmpty
  | a :: as, bs =>
    match bs with
    | [] => false
    | b :: bs => same a b && sameList as bs

end

end Schema
end SchemaReview
