import IotController.Conditioner.Siblings
import IotController.Conditioner.Hysteresis
import IotController.HookReceiver.Handler
import IotController.Conditioner.SafetyNet
import IotController.Conditioner.Wakeups
import IotController.Conditioner.Shadow
import IotController.Conditioner.ActivateDeactivate
import IotController.Conditioner.RunTimer
import IotController.Conditioner.Epoch
import IotController.Conditioner.Sun
import IotController.Conditioner.TimeGate
import IotController.Conditioner.FadeDelivery
import IotController.Bindings.ExactlyOnce
import IotController.Iot.Confirm
import IotController.ZoneKeeper.Brightness
import IotController.ZigbeeCoordinator.PermitJoin
import IotController.ZoneKeeper.Scene
import IotController.Ember.Sequence
import IotController.ZigbeeCoordinator.StartUp
import IotController.NativeZigbee.DeviceLookup
import IotController.Znp.Returns
import IotController.Dongle.Interviews
import IotController.Ember.Checksum
import IotController.Ember.Reset
import IotController.Ember.Bounds
import IotController.Ember.Silence
import IotController.Dongle.Send
import IotController.Conditioner.StackLaws
import IotController.Compute.PromScalar
import IotController.Compute.Solar
import IotController.Znp.HandleFrame
import IotController.Dongle.SimpleDescriptor
import IotController.ZigbeeCoordinator.Reinterview
import IotController.Router.Shutdown
import IotController.ZigbeeCoordinator.ZclResponse
import IotController.Zcl.Commands
