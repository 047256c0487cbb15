import Messenger.Wire.Invoice

/-!
# Prices and ways to ship

A price in labelled parts (`LabeledPrice`), and a way to ship with its price (`ShippingOption`), which
is told to the server part by part.
-/

namespace Messenger

/-- A part of the price of something. -/
structure LabeledPrice where
  label : String
  /-- In the smallest units of the currency. -/
  amount : Int64
deriving DecidableEq, Inhabited

namespace LabeledPrice

/-- The part of a price that the server sent. -/
def ofRaw (raw : Wire.LabeledPrice) : LabeledPrice where
  label := raw.label
  amount := raw.amount

/-- The part of a price as a request tells it. -/
def raw (price : LabeledPrice) : Wire.LabeledPrice where
  label := price.label
  amount := price.amount

end LabeledPrice

/-- A way to have something shipped, as it is offered to the buyer. -/
structure ShippingOption where
  id : String
  title : String
  prices : List LabeledPrice
deriving DecidableEq, Inhabited

namespace ShippingOption

/-- The way to ship as a request tells it. -/
def raw (option : ShippingOption) : Wire.ShippingOption where
  id := option.id
  title := option.title
  prices := option.prices.map LabeledPrice.raw

end ShippingOption

end Messenger
