/-
Module: DeviceWifi.Firmware.AppEvent
Layer: Firmware
Purpose: The event type of `app_event.h` and the constants of `app_config.h` and `app_task.cpp` that
  the event pipeline uses. A handler pointer is the name of the handler it points to.
Imports: Mathlib.Logic.Basic
Trusted boundary: human-reviewed spec
Main exports: AppEventType, EventHandler, AppEvent, FunctionEvent
Open obligations: none
-/
import Mathlib.Logic.Basic

namespace DeviceWifi

/-- `kAppEventQueueSize`. -/
def kAppEventQueueSize : Nat := 10

/-- `kFactoryResetTriggerTimeout`, in milliseconds. -/
def kFactoryResetTriggerTimeout : Nat := 6000

/-- `FUNCTION_BUTTON`, that is `DK_BTN1`. The source only names it; its value is the SDK's, the index of the
    first button. -/
def functionButton : UInt8 := 0

/-- `FUNCTION_BUTTON_MASK`, that is `DK_BTN1_MSK`: the bit of this button in the button state words. The
    source only names it too. -/
def functionButtonMask : UInt32 := 1

/-- `enum class AppEventType : uint8_t`, in declaration order. -/
inductive AppEventType where
  | none | button | buttonPushed | buttonReleased | timer | updateLedState
  | hotLampActivate | hotLampDeactivate
  | uvbLampActivate | uvbLampDeactivate
  | heaterActivate | heaterDeactivate
  | filterActivate | filterDeactivate
  | feederActivate | feederDeactivate
  | hotSensorMeasure | coldSensorMeasure | waterTempSensorMeasure
deriving DecidableEq, Repr, Inhabited

/-- `static_cast<uint8_t>` of an event type: its position in the declaration. -/
def AppEventType.toUInt8 : AppEventType → UInt8
  | .none => 0
  | .button => 1
  | .buttonPushed => 2
  | .buttonReleased => 3
  | .timer => 4
  | .updateLedState => 5
  | .hotLampActivate => 6
  | .hotLampDeactivate => 7
  | .uvbLampActivate => 8
  | .uvbLampDeactivate => 9
  | .heaterActivate => 10
  | .heaterDeactivate => 11
  | .filterActivate => 12
  | .filterDeactivate => 13
  | .feederActivate => 14
  | .feederDeactivate => 15
  | .hotSensorMeasure => 16
  | .coldSensorMeasure => 17
  | .waterTempSensorMeasure => 18

/-- `enum class FunctionEvent`. -/
inductive FunctionEvent where
  | noneSelected | factoryReset
deriving DecidableEq, Repr, Inhabited

/-- The handler functions an event's `Handler` pointer can hold. -/
inductive EventHandler where
  | hotSensorMeasureHandler | coldSensorMeasureHandler | waterTempSensorMeasureHandler
  | hotLampActivateHandler | hotLampDeactivateHandler
  | uvbLampActivateHandler | uvbLampDeactivateHandler
  | heaterActivateHandler | heaterDeactivateHandler
  | filterActivateHandler | filterDeactivateHandler
  | feederActivateHandler | feederDeactivateHandler
  | updateLedStateEventHandler
  | functionHandler
  | functionTimerEventHandler
deriving DecidableEq, Repr

/-- The anonymous union of `AppEvent`: the member the producer wrote. No handler reads the timer
    member's context pointer, so that member carries nothing. -/
inductive EventPayload where
  | unset
  | buttonEvent (pinNo action : UInt8)
  | timerEvent
  | updateLedStateEvent (ledWidget : Nat)
deriving DecidableEq, Repr, Inhabited

/-- `struct AppEvent`. A null `Handler` is `none`. -/
structure AppEvent where
  payload : EventPayload := .unset
  type : AppEventType := .none
  handler : Option EventHandler := .none
deriving DecidableEq, Repr, Inhabited

end DeviceWifi
