/-
  `Send` of both stacks.

  A message goes out as it is or not at all up to a length that each stack has for itself.
  Behind it the Ember stack transmits a length byte that disagrees with the bytes, and the
  ZNP stack panics, as it does while another call waits for its response.
-/
import IotController.Ember.Send
import IotController.Znp.Send

namespace IotController.Dongle

open Foundation

end IotController.Dongle
