import TestDouble.Scenario.Notices
import TestDouble.Scenario.Orders
import TestDouble.Scenario.Users

/-!
# All scenarios
-/

namespace TestDouble.Scenario

/-- The scenarios of all subjects. -/
def all : List Scenario :=
  [Orders.successfulOrder, Orders.repositoryFailure, Orders.declinedPayment, Orders.secondPayment,
   Orders.forwardedLog, Notices.lowPriority, Notices.forbiddenSend, Notices.urgentSent,
   Notices.sendFailure, Notices.blockedOverlap, Users.configuredUser, Users.newUser,
   Users.duplicateEmail, Users.lenientDefaults, Users.verifiedAfterwards]

end TestDouble.Scenario
