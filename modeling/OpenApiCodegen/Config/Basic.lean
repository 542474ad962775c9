namespace OpenApiCodegen

structure MobileConfig where
  packageName : String := "api_client"
  modelDir : String := "lib/model"
  apiDir : String := "lib/api"
  clientName : String := "RestClient"
  deriving DecidableEq

structure ServerConfig where
  packageName : String := "api"
  sourceDir : String := "api"
  validateRequests : Bool := true
  deriving DecidableEq

structure WebConfig where
  modelDir : String := "src/model"
  apiDir : String := "src/api"
  axiosInstance : String := "defaultAxios"
  deriving DecidableEq

structure Config where
  mobile : MobileConfig := {}
  server : ServerConfig := {}
  web : WebConfig := {}
  deriving DecidableEq

end OpenApiCodegen
