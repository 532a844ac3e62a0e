import Herald.Attribute.Basic

/-! # Filter operators

The closed set of operators and the kinds of attribute that each may be applied to.
-/

namespace Herald

/-- An operator of a filter condition. -/
inductive Operator
  | equals | notEquals | contains | notContains | startsWith | endsWith | isSet | isNotSet
  | greaterThan | lessThan | greaterThanOrEqual | lessThanOrEqual | between
  | expiresInDaysEq | expiresInDaysGt | expiresInDaysGte | expiresInDaysLt | expiresInDaysLte
  | daysAgoEq | daysAgoGt | daysAgoGte | daysAgoLt | daysAgoLte
  | expiresWithin | expiredSince | equalsDate | before | after
  | isTrue | isFalse
  | isIn | notIn
  | count | notEmpty | isEmpty | anyOf | allOf | noneOf | exists
  | anyExpiryInDays | anyExpiryWithin | anyExpiryAfter | anyExpiryExpiredSince | anyExpiryToday
  deriving DecidableEq

namespace Operator

def all : List Operator :=
  [.equals, .notEquals, .contains, .notContains, .startsWith, .endsWith, .isSet, .isNotSet,
    .greaterThan, .lessThan, .greaterThanOrEqual, .lessThanOrEqual, .between,
    .expiresInDaysEq, .expiresInDaysGt, .expiresInDaysGte, .expiresInDaysLt, .expiresInDaysLte,
    .daysAgoEq, .daysAgoGt, .daysAgoGte, .daysAgoLt, .daysAgoLte,
    .expiresWithin, .expiredSince, .equalsDate, .before, .after,
    .isTrue, .isFalse, .isIn, .notIn,
    .count, .notEmpty, .isEmpty, .anyOf, .allOf, .noneOf, .exists,
    .anyExpiryInDays, .anyExpiryWithin, .anyExpiryAfter, .anyExpiryExpiredSince, .anyExpiryToday]

def name : Operator → String
  | .equals => "equals"
  | .notEquals => "not_equals"
  | .contains => "contains"
  | .notContains => "not_contains"
  | .startsWith => "starts_with"
  | .endsWith => "ends_with"
  | .isSet => "is_set"
  | .isNotSet => "is_not_set"
  | .greaterThan => "greater_than"
  | .lessThan => "less_than"
  | .greaterThanOrEqual => "greater_than_or_equal"
  | .lessThanOrEqual => "less_than_or_equal"
  | .between => "between"
  | .expiresInDaysEq => "expires_in_days_eq"
  | .expiresInDaysGt => "expires_in_days_gt"
  | .expiresInDaysGte => "expires_in_days_gte"
  | .expiresInDaysLt => "expires_in_days_lt"
  | .expiresInDaysLte => "expires_in_days_lte"
  | .daysAgoEq => "days_ago_eq"
  | .daysAgoGt => "days_ago_gt"
  | .daysAgoGte => "days_ago_gte"
  | .daysAgoLt => "days_ago_lt"
  | .daysAgoLte => "days_ago_lte"
  | .expiresWithin => "expires_within"
  | .expiredSince => "expired_since"
  | .equalsDate => "equals_date"
  | .before => "before"
  | .after => "after"
  | .isTrue => "is_true"
  | .isFalse => "is_false"
  | .isIn => "in"
  | .notIn => "not_in"
  | .count => "count"
  | .notEmpty => "not_empty"
  | .isEmpty => "is_empty"
  | .anyOf => "any"
  | .allOf => "all"
  | .noneOf => "none"
  | .exists => "exists"
  | .anyExpiryInDays => "any_expiry_in_days"
  | .anyExpiryWithin => "any_expiry_within"
  | .anyExpiryAfter => "any_expiry_after"
  | .anyExpiryExpiredSince => "any_expiry_expired_since"
  | .anyExpiryToday => "any_expiry_today"

def ofName? (name : String) : Option Operator :=
  all.find? fun operator => operator.name == name

/-- Whether an operator needs a value to be present: all but the two that test for absence. -/
def requiresPresence (operator : Operator) : Bool :=
  operator != .isNotSet && operator != .isEmpty

end Operator

/-- The operators that may be applied to attributes of a kind. -/
def AttributeKind.operators : AttributeKind → List Operator
  | .string => [.equals, .notEquals, .contains, .notContains, .startsWith, .endsWith, .isSet,
    .isNotSet]
  | .number => [.equals, .notEquals, .greaterThan, .lessThan, .greaterThanOrEqual,
    .lessThanOrEqual, .between]
  | .date => [.expiredSince, .expiresWithin, .daysAgoEq, .daysAgoGt, .daysAgoGte, .daysAgoLt,
    .daysAgoLte, .expiresInDaysEq, .expiresInDaysGt, .expiresInDaysGte, .expiresInDaysLt,
    .expiresInDaysLte, .equalsDate, .before, .after, .isSet, .isNotSet]
  | .boolean => [.isTrue, .isFalse, .isSet, .isNotSet]
  | .enumeration => [.equals, .notEquals, .isIn, .notIn]
  | .array => [.count, .notEmpty, .isEmpty, .anyExpiryInDays, .anyExpiryWithin, .anyExpiryAfter,
    .anyExpiryExpiredSince, .anyExpiryToday, .anyOf, .allOf, .noneOf, .exists]

def AttributeSpec.allows (spec : AttributeSpec) (operator : Operator) : Bool :=
  spec.kind.operators.contains operator

end Herald
